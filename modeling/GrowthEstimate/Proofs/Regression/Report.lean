import GrowthEstimate.Proofs.Growth.Order
import GrowthEstimate.Proofs.Number.Line
import GrowthEstimate.Verdict.Final

/-!
Contract: what a regression reports fits together, and which fit is selected.

Owns: that only a candidate that may win is selected, the candidates of a report and the number of
its samples, and when a measurement has a class; what it means that a fit wins, that each candidate
keeps or changes the winner, when there is none, and that candidates that may not be selected do not
matter.

Does **not** own: whether the best fit is any good, how fits are scored, and the confidence of a
report (`Proofs.Verdict.Decision`).
-/

set_option autoImplicit false

namespace GrowthEstimate

variable {α : Type} [Scalar α]

/-! ## Reports -/

namespace RegressionReport

/-! ### Selection -/

theorem select_mem_filter {candidates : List (Fit α)} {best : Fit α}
    (selected : select candidates = some best) : best ∈ candidates.filter Fit.selectable := by
  have chosen : ∀ fit, select candidates = some fit → fit ∈ candidates.filter Fit.selectable := by
    unfold select
    refine List.foldlRecOn
      (motive := fun best => ∀ fit, best = some fit → fit ∈ candidates.filter Fit.selectable)
      _ _ (fun _ isNone => by contradiction) ?_
    intro incumbent fromCandidates challenger isCandidate fit isFit
    unfold challenge at isFit
    split at isFit
    · rw [← Option.some.inj isFit]
      exact isCandidate
    · split at isFit
      · exact fromCandidates fit isFit
      · rw [← Option.some.inj isFit]
        exact isCandidate
  exact chosen best selected

/-- Only candidates are selected. -/
theorem select_mem {candidates : List (Fit α)} {best : Fit α}
    (selected : select candidates = some best) : best ∈ candidates :=
  (List.mem_filter.mp (select_mem_filter selected)).1

/-! ### Reports -/

theorem ofSamples_of_enough {samples : List (CostSample α)}
    (enough : CostSample.fewest ≤ samples.length) :
    ∃ report, ofSamples samples = .ok report := by
  unfold ofSamples
  rw [if_neg (Nat.not_lt.mpr enough)]
  exact ⟨_, rfl⟩

/-- The report is on that many samples.  Its candidates are the canonical classes in their
order, and one of those that may be selected wins, if any. -/
structure Consistent (report : RegressionReport α) (count : Nat) : Prop where
  candidates : report.candidates.map Fit.growth = GrowthClass.canonical
  best : ∀ best, report.best = some best → best ∈ report.candidates ∧ best.selectable = true
  sampleCount : report.sampleCount = count

theorem ofSamples_consistent {samples : List (CostSample α)} {report : RegressionReport α}
    (fits : ofSamples samples = .ok report) : report.Consistent samples.length := by
  unfold ofSamples at fits
  split at fits
  · contradiction
  · obtain rfl := Except.ok.inj fits
    constructor
    case candidates =>
      rw [List.map_map]
      exact List.map_id GrowthClass.canonical
    case best =>
      intro best selected
      exact List.mem_filter.mp (select_mem_filter selected)
    case sampleCount => exact List.length_mergeSort samples

omit [Scalar α] in
/-- The class of a report is known if and only if a fit wins. -/
theorem Consistent.bestClass_isKnown {report : RegressionReport α} {count : Nat}
    (consistent : report.Consistent count) :
    report.bestClass.isKnown = report.best.isSome := by
  unfold bestClass
  cases isBest : report.best with
  | none => rfl
  | some best =>
      have isCanonical : best.growth ∈ GrowthClass.canonical := by
        rw [← consistent.candidates]
        exact List.mem_map_of_mem (consistent.best best isBest).1
      exact GrowthClass.isKnown_of_canonical best.growth isCanonical

end RegressionReport

/-- The class and the confidence of the fit that wins. -/
def RegressionReport.signal? (report : RegressionReport α) : Option (GrowthClass × α) :=
  report.best.map fun fit => (fit.growth, fit.confidence)

/-- The class and the confidence that a measurement contributes to a verdict. -/
def Measurement.signal? (measurement : Measurement α) : Option (GrowthClass × α) :=
  measurement.confidence?.map fun confidence => (measurement.growth, confidence)

/-- A measurement contributes the class and the confidence of the fit that wins. -/
theorem Measurement.signal?_eq {measurement : Measurement α}
    (reports : ∀ report, measurement.report? = some report → ∃ count, report.Consistent count) :
    measurement.signal? = measurement.report?.bind RegressionReport.signal? := by
  unfold signal? confidence? growth
  cases reported : measurement.report? with
  | none => rfl
  | some report =>
      obtain ⟨count, consistent⟩ := reports report reported
      have known := consistent.bestClass_isKnown
      obtain ⟨_ | best, _, _, _, _⟩ := report
      · rfl
      · have isKnown : best.growth.isKnown = true := known
        show (if best.growth.isKnown then some best.confidence else none).map
          (fun confidence => (best.growth, confidence)) = some (best.growth, best.confidence)
        rw [if_pos isKnown, Option.map_some]

/-- What is measured has a confidence if and only if a fit wins. -/
theorem Measurement.confidence?_isSome {measurement : Measurement α}
    (reports : ∀ report, measurement.report? = some report → ∃ count, report.Consistent count) :
    measurement.confidence?.isSome = true ↔
      ∃ report, measurement.report? = some report ∧ report.best.isSome = true := by
  have isSignal := congrArg Option.isSome (signal?_eq reports)
  rw [signal?, Option.isSome_map] at isSignal
  rw [isSignal]
  cases measurement.report? with
  | none => simp
  | some report => simp [RegressionReport.signal?]

/-! ## Selection

A challenger takes the place if its score exceeds the holder's by more than the tolerance.
Being at most that much ahead is not transitive, so fits may creep ahead of each other.  But
whoever takes the place exceeds the former holder by more than any candidate before did, so
the invariant of the fold speaks of all candidates and not of the last holder only. -/

namespace RegressionReport

/-- A fit stands among the candidates and may be selected.  Of the others that may be, those
before it have lower scores and none has a higher one but for the tolerance. -/
structure Wins (candidates : List (Fit α)) (winner : Fit α) : Prop where
  mayWin : winner.selectable = true
  first : ∃ before after, candidates = before ++ winner :: after ∧
    ∀ fit ∈ before, fit.selectable = true →
      Scalar.lt fit.compositeScore winner.compositeScore = true
  close : ∀ fit ∈ candidates, fit.selectable = true →
    Scalar.le fit.compositeScore (winner.compositeScore + scoreTolerance) = true

/-- Some candidates are left out, none of which may be selected. -/
inductive Pruned : List (Fit α) → List (Fit α) → Prop
  | nil : Pruned [] []
  | keep (fit : Fit α) {candidates remaining : List (Fit α)}
      (pruned : Pruned candidates remaining) : Pruned (fit :: candidates) (fit :: remaining)
  | leaveOut {fit : Fit α} (mayNotWin : fit.selectable = false)
      {candidates remaining : List (Fit α)} (pruned : Pruned candidates remaining) :
      Pruned (fit :: candidates) remaining

omit [Scalar α] in
theorem Pruned.filter_eq {candidates remaining : List (Fit α)}
    (pruned : Pruned candidates remaining) :
    remaining.filter Fit.selectable = candidates.filter Fit.selectable := by
  induction pruned with
  | nil => rfl
  | keep fit _ inductionHypothesis => simp only [List.filter_cons, inductionHypothesis]
  | leaveOut mayNotWin _ inductionHypothesis =>
      rw [inductionHypothesis, List.filter_cons_of_neg (Bool.eq_false_iff.mp mayNotWin)]

variable {candidates : List (Fit α)} {winner challenger : Fit α}

theorem Wins.mem (wins : Wins candidates winner) : winner ∈ candidates := by
  obtain ⟨before, after, rfl, -⟩ := wins.first
  exact List.mem_append_right before List.mem_cons_self

/-- A candidate behind the others challenges the one that is selected among these. -/
theorem select_concat (candidates : List (Fit α)) (challenger : Fit α) :
    select (candidates ++ [challenger]) =
      if challenger.selectable then challenge (select candidates) challenger
      else select candidates := by
  unfold select
  rw [List.filter_append, List.foldl_append, List.filter_singleton]
  cases challenger.selectable <;> rfl

/-! ### Challenges -/

theorem Wins.stays (wins : Wins candidates winner)
    (withstands : challenger.selectable = true →
      Scalar.le challenger.compositeScore (winner.compositeScore + scoreTolerance) = true) :
    Wins (candidates ++ [challenger]) winner where
  mayWin := wins.mayWin
  first := by
    obtain ⟨before, after, rfl, isAhead⟩ := wins.first
    exact ⟨before, after ++ [challenger], by rw [List.append_assoc, List.cons_append], isAhead⟩
  close := List.forall_mem_append.mpr ⟨wins.close, List.forall_mem_singleton.mpr withstands⟩

variable [GainOrder α]

theorem le_self_add_tolerance {score : α} (isFinite : Scalar.isFinite score = true) :
    Scalar.le score (score + scoreTolerance) = true :=
  have ⟨finite, nonNegative⟩ := GainOrder.power_gain (α := α) (Nat.le_refl 12)
  GainOrder.le_add isFinite finite nonNegative

/-- A challenger wins that has a higher score than all candidates before it. -/
theorem Wins.of_ahead (mayWin : challenger.selectable = true)
    (isFinite : Scalar.isFinite challenger.compositeScore = true)
    (finite : ∀ fit ∈ candidates, fit.selectable = true →
      Scalar.isFinite fit.compositeScore = true)
    (isAhead : ∀ fit ∈ candidates, fit.selectable = true →
      Scalar.lt fit.compositeScore challenger.compositeScore = true) :
    Wins (candidates ++ [challenger]) challenger := by
  have itself := le_self_add_tolerance isFinite
  refine ⟨mayWin, ⟨candidates, [], rfl, isAhead⟩, List.forall_mem_append.mpr
    ⟨?_, List.forall_mem_singleton.mpr fun _ => itself⟩⟩
  intro fit isCandidate mayWin'
  have isLess := isAhead fit isCandidate mayWin'
  have isDefined := GainOrder.isNaN_of_isFinite (finite fit isCandidate mayWin')
  exact GainOrder.le_trans
    (GainOrder.le_of_lt isDefined (GainOrder.isNaN_of_isFinite isFinite) isLess) itself

theorem Wins.replaced (wins : Wins candidates winner) (mayWin : challenger.selectable = true)
    (isFinite : Scalar.isFinite challenger.compositeScore = true)
    (finite : ∀ fit ∈ candidates, fit.selectable = true →
      Scalar.isFinite fit.compositeScore = true)
    (exceeds : Scalar.le challenger.compositeScore
      (winner.compositeScore + scoreTolerance) = false) :
    Wins (candidates ++ [challenger]) challenger := by
  refine Wins.of_ahead mayWin isFinite finite ?_
  intro fit isCandidate mayWin'
  rw [GainOrder.lt_iff_not_le
    (GainOrder.isNaN_of_isFinite (finite fit isCandidate mayWin'))
    (GainOrder.isNaN_of_isFinite isFinite), ← Bool.not_eq_true]
  intro notAhead
  rw [GainOrder.le_trans notAhead (wins.close fit isCandidate mayWin')] at exceeds
  contradiction

/-! ### The selection -/

/-- There is a winner, or no candidate may be selected. -/
theorem select_cases
    (finite : ∀ fit ∈ candidates, fit.selectable = true →
      Scalar.isFinite fit.compositeScore = true) :
    (select candidates = none ∧ ∀ fit ∈ candidates, fit.selectable = false) ∨
      ∃ winner, select candidates = some winner ∧ Wins candidates winner := by
  induction candidates using List.reverseRecOn with
  | nil => exact Or.inl ⟨rfl, List.forall_mem_nil _⟩
  | append_singleton candidates challenger inductionHypothesis =>
      obtain ⟨othersFinite, isFinite⟩ := List.forall_mem_append.mp finite
      rw [List.forall_mem_singleton] at isFinite
      rw [select_concat]
      cases mayWin : challenger.selectable with
      | false =>
          rcases inductionHypothesis othersFinite with ⟨isNone, noneMay⟩ | ⟨winner, isWinner, wins⟩
          · exact Or.inl ⟨isNone, List.forall_mem_append.mpr
              ⟨noneMay, List.forall_mem_singleton.mpr mayWin⟩⟩
          · refine Or.inr ⟨winner, isWinner, wins.stays ?_⟩
            rw [mayWin]
            exact fun isTrue => absurd isTrue Bool.false_ne_true
      | true =>
          right
          rcases inductionHypothesis othersFinite with ⟨isNone, noneMay⟩ | ⟨winner, isWinner, wins⟩
          · refine ⟨challenger, by rw [isNone]; rfl,
              Wins.of_ahead mayWin (isFinite mayWin) othersFinite ?_⟩
            intro fit isCandidate mayWin'
            rw [noneMay fit isCandidate] at mayWin'
            contradiction
          · rw [isWinner, if_pos rfl, challenge]
            split
            · next withstands => exact ⟨winner, rfl, wins.stays fun _ => withstands⟩
            · next exceeds =>
                exact ⟨challenger, rfl, wins.replaced mayWin (isFinite mayWin) othersFinite
                  (Bool.eq_false_iff.mpr exceeds)⟩

theorem select_wins
    (finite : ∀ fit ∈ candidates, fit.selectable = true →
      Scalar.isFinite fit.compositeScore = true)
    (selected : select candidates = some winner) : Wins candidates winner := by
  rcases select_cases finite with ⟨isNone, -⟩ | ⟨other, isOther, wins⟩
  · rw [isNone] at selected
    contradiction
  · rwa [← Option.some.inj (isOther.symm.trans selected)]

theorem select_eq_none_iff
    (finite : ∀ fit ∈ candidates, fit.selectable = true →
      Scalar.isFinite fit.compositeScore = true) :
    select candidates = none ↔ ∀ fit ∈ candidates, fit.selectable = false := by
  rcases select_cases finite with ⟨isNone, noneMay⟩ | ⟨winner, isWinner, wins⟩
  · exact iff_of_true isNone noneMay
  · refine iff_of_false (by rw [isWinner]; exact Option.some_ne_none winner) fun noneMay => ?_
    have mayNot := noneMay winner wins.mem
    rw [wins.mayWin] at mayNot
    contradiction

/-- The best fit of a report wins among its candidates. -/
theorem ofSamples_best_wins {samples : List (CostSample α)} {report : RegressionReport α}
    (reported : ofSamples samples = .ok report) {best : Fit α} (isBest : report.best = some best) :
    Wins report.candidates best := by
  unfold ofSamples at reported
  split at reported
  · contradiction
  · rw [← Except.ok.inj reported] at isBest ⊢
    refine select_wins ?_ isBest
    intro fit isCandidate mayWin
    obtain ⟨growth, -, rfl⟩ := List.mem_map.mp isCandidate
    simp only [Fit.ofSamples, Bool.and_eq_true] at mayWin
    exact mayWin.1.2

/-- No candidate is selected if and only if none may be, a selected one wins among all, and
candidates that may not be selected do not matter. -/
theorem select_among
    (finite : ∀ fit ∈ candidates, fit.selectable = true →
      Scalar.isFinite fit.compositeScore = true) :
    (select candidates = none ↔ ∀ fit ∈ candidates, fit.selectable = false) ∧
    (∀ winner, select candidates = some winner → Wins candidates winner) ∧
    ∀ remaining, Pruned candidates remaining → select remaining = select candidates := by
  refine ⟨select_eq_none_iff finite, fun _ => select_wins finite, ?_⟩
  intro remaining pruned
  rw [select, pruned.filter_eq, select]

/-- Of three scores each is ahead of the one before it by less than the tolerance, and the third
of the first by more.  A higher one belongs to a fit that may not be selected. -/
theorem select_among_creeping :
    let scored (growth : GrowthClass) (score : Float) (selectable : Bool) : Fit Float :=
      ⟨growth, 1.0, 1.0, 0.0, 0.001, [], 1.0, score, selectable⟩
    let candidates := [scored .const 0.5 true, scored .log 0.5000000000008 true,
      scored .linear 0.5000000000016 true, scored .quadratic 0.9 false]
    (∀ fit ∈ candidates, fit.selectable = true →
      Scalar.isFinite fit.compositeScore = true) ∧
    (select candidates).map Fit.growth = some .linear ∧
    (select candidates = none ↔ ∀ fit ∈ candidates, fit.selectable = false) ∧
    (∀ winner, select candidates = some winner → Wins candidates winner) ∧
    ∀ remaining, Pruned candidates remaining → select remaining = select candidates := by
  intro scored candidates
  have finite : ∀ fit ∈ candidates, fit.selectable = true →
      Scalar.isFinite fit.compositeScore = true := by
    decide +kernel
  exact ⟨finite, by decide +kernel, select_among finite⟩

end RegressionReport

end GrowthEstimate
