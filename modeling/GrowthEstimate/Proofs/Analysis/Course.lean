import GrowthEstimate.Analysis.Context

/-!
Contract: what the execution of a course tracks, and whom a course asks.

Owns: the two ends of an execution, what a second step finds, silent courses, courses that
complete a run, and courses that ask whether they are cancelled.

Does **not** own: the courses of an analysis, and scopes outside of a course.

A course has no way to the context but its steps.  One that is silent has none but the scopes of
phases: whatever happens inside of it, it leaves what it found, and no moment of it shows another
input.
-/

set_option autoImplicit false

namespace GrowthEstimate

namespace Tracker

/-- The tracker in another phase, or in none. -/
def withPhase (tracker : Tracker) (phase : Option AnalysisPhase) : Tracker :=
  { tracker with context := { tracker.context with phase } }

/-- Leaving a phase undoes entering it. -/
theorem restore_inPhase (tracker : Tracker) (phase : AnalysisPhase) :
    (tracker.inPhase phase).restore tracker.context = tracker :=
  rfl

end Tracker

namespace Course

variable {β γ : Type}

/-- A second step finds what the first one left, and nothing follows a step that fails. -/
theorem andThen_cases (first : Course β) (next : β → Course γ) (tracker : Tracker) :
    let former := first.execute tracker
    (∃ result, former.outcome = .ok result ∧
      let latter := (next result).execute former.left
      (andThen first next).execute tracker =
        ⟨latter.outcome, latter.left, former.moments ++ latter.moments⟩) ∨
    ∃ error, former.outcome = .error error ∧
      (andThen first next).execute tracker = ⟨.error error, former.left, former.moments⟩ := by
  simp only [execute]
  cases first.execute tracker with
  | mk outcome left moments =>
    cases outcome with
    | ok result => exact Or.inl ⟨result, rfl, rfl⟩
    | error error => exact Or.inr ⟨error, rfl, rfl⟩

/-! ## Ends -/

/-- An execution begins with the tracker that it finds. -/
theorem head?_moments (course : Course β) (tracker : Tracker) :
    (course.execute tracker).moments.head? = some tracker := by
  induction course generalizing tracker with
  | succeed | fail | recordStarted | recordCompleted | within => rfl
  | andThen first next ofFirst _ =>
      rcases andThen_cases first next tracker with ⟨result, _, executed⟩ | ⟨error, _, executed⟩
      · rw [executed, List.head?_append, ofFirst tracker, Option.some_or]
      · rw [executed, ofFirst tracker]

/-- An execution ends with the tracker that it leaves behind. -/
theorem getLast?_moments (course : Course β) (tracker : Tracker) :
    (course.execute tracker).moments.getLast? = some (course.execute tracker).left := by
  induction course generalizing tracker with
  | succeed | fail | recordStarted | recordCompleted => rfl
  | within mark body _ => rw [execute, ← List.cons_append, List.getLast?_concat]
  | andThen first next ofFirst ofNext =>
      rcases andThen_cases first next tracker with ⟨result, _, executed⟩ | ⟨error, _, executed⟩
      · rw [executed, List.getLast?_append, ofNext result, Option.some_or]
      · rw [executed, ofFirst tracker]

/-! ## Silent courses -/

/-- The course records no run and has no scope but those of phases. -/
def Silent {β : Type} : Course β → Prop
  | succeed _ | fail _ => True
  | andThen first next => first.Silent ∧ ∀ result, (next result).Silent
  | recordStarted | recordCompleted => False
  | within (.phase _) body => body.Silent
  | within (.input _) _ => False

namespace Silent

theorem ofExcept (result : Except AnalysisError β) : (Course.ofExcept result).Silent := by
  cases result <;> trivial

theorem inPhase {body : Course β} (silent : body.Silent) (phase : AnalysisPhase) :
    (Course.inPhase phase body).Silent :=
  silent

theorem bind {first : Course β} {next : β → Course γ} (silent : first.Silent)
    (silentNext : ∀ result, (next result).Silent) : (first >>= next).Silent :=
  ⟨silent, silentNext⟩

/-- A silent course leaves what it found. -/
theorem left_eq {course : Course β} (silent : course.Silent) (tracker : Tracker) :
    (course.execute tracker).left = tracker := by
  induction course generalizing tracker with
  | succeed | fail => rfl
  | recordStarted | recordCompleted => exact silent.elim
  | within mark body ofBody =>
      cases mark with
      | phase entered =>
          show (body.execute (tracker.inPhase entered)).left.restore tracker.context = tracker
          rw [ofBody silent, Tracker.restore_inPhase]
      | input shown => exact silent.elim
  | andThen first next ofFirst ofNext =>
      rcases Course.andThen_cases first next tracker with
        ⟨result, _, executed⟩ | ⟨error, _, executed⟩
      · rw [executed, ofFirst silent.1, ofNext result (silent.2 result)]
      · rw [executed, ofFirst silent.1]

/-- What follows a silent first step finds what the first step found. -/
theorem andThen_cases {first : Course β} (silent : first.Silent) (next : β → Course γ)
    (tracker : Tracker) :
    let former := first.execute tracker
    (∃ result, let latter := (next result).execute tracker
      (andThen first next).execute tracker =
        ⟨latter.outcome, latter.left, former.moments ++ latter.moments⟩) ∨
    ∃ error, (andThen first next).execute tracker = ⟨.error error, tracker, former.moments⟩ := by
  have kept := silent.left_eq tracker
  rcases Course.andThen_cases first next tracker with ⟨result, _, executed⟩ | ⟨error, _, executed⟩
  · rw [kept] at executed
    exact Or.inl ⟨result, executed⟩
  · rw [kept] at executed
    exact Or.inr ⟨error, executed⟩

/-- At every moment of a silent course nothing is changed but the phase. -/
theorem moments_eq {course : Course β} (silent : course.Silent) (tracker : Tracker) :
    ∀ moment ∈ (course.execute tracker).moments, ∃ phase, moment = tracker.withPhase phase := by
  induction course generalizing tracker with
  | succeed | fail =>
      intro moment isMoment
      exact ⟨tracker.context.phase, List.mem_singleton.mp isMoment⟩
  | recordStarted | recordCompleted => exact silent.elim
  | within mark body ofBody =>
      cases mark with
      | phase entered =>
          intro moment isMoment
          let inside := body.execute (tracker.inPhase entered)
          have silentPhase : (within (.phase entered) body).Silent := silent
          have left : inside.left.restore tracker.context = tracker :=
            silentPhase.left_eq tracker
          change moment ∈ tracker :: (inside.moments ++ [inside.left.restore tracker.context])
            at isMoment
          rw [left, List.mem_cons, List.mem_append, List.mem_singleton] at isMoment
          rcases isMoment with isFirst | isInside | isLast
          · exact ⟨tracker.context.phase, isFirst⟩
          · exact ofBody silent (tracker.inPhase entered) moment isInside
          · exact ⟨tracker.context.phase, isLast⟩
      | input shown => exact silent.elim
  | andThen first next ofFirst ofNext =>
      intro moment isMoment
      rcases silent.1.andThen_cases next tracker with ⟨result, executed⟩ | ⟨error, executed⟩
      · rw [executed, List.mem_append] at isMoment
        rcases isMoment with isBefore | isAfter
        · exact ofFirst silent.1 tracker moment isBefore
        · exact ofNext result (silent.2 result) tracker moment isAfter
      · rw [executed] at isMoment
        exact ofFirst silent.1 tracker moment isMoment

end Silent

/-! ## Courses that complete -/

/-- Right before it succeeds the course records a run as completed, and it records nothing
else. -/
inductive Completes {β : Type} : Course β → Prop where
  | now (result : β) : Completes (andThen recordCompleted fun _ => succeed result)
  | after {γ : Type} {first : Course γ} {next : γ → Course β} (silent : first.Silent)
      (rest : ∀ result, (next result).Completes) : Completes (andThen first next)

/-- One more run is completed if the course succeeds, and none if it fails. -/
theorem Completes.left_eq {course : Course β} (completes : course.Completes) (tracker : Tracker) :
    (course.execute tracker).left =
      if (course.execute tracker).outcome.isOk then tracker.recordCompleted else tracker := by
  induction completes with
  | now result => rfl
  | @after γ first next silent _ ofRest =>
      rcases silent.andThen_cases next tracker with ⟨result, executed⟩ | ⟨error, executed⟩
      · rw [executed]
        exact ofRest result
      · rw [executed]
        rfl

/-- At every moment nothing is changed but the phase, and the run may be recorded as completed. -/
theorem Completes.moments_eq {course : Course β} (completes : course.Completes)
    (tracker : Tracker) :
    ∀ moment ∈ (course.execute tracker).moments, ∃ phase,
      moment = tracker.withPhase phase ∨ moment = tracker.recordCompleted.withPhase phase := by
  induction completes with
  | now result =>
      intro moment isMoment
      have isEither : moment = tracker ∨ moment = tracker.recordCompleted := by
        simpa [execute] using isMoment
      exact ⟨tracker.context.phase, isEither⟩
  | @after γ first next silent _ ofRest =>
      intro moment isMoment
      have before (isBefore : moment ∈ (first.execute tracker).moments) : ∃ phase,
          moment = tracker.withPhase phase ∨ moment = tracker.recordCompleted.withPhase phase :=
        (silent.moments_eq tracker moment isBefore).imp fun _ => Or.inl
      rcases silent.andThen_cases next tracker with ⟨result, executed⟩ | ⟨error, executed⟩
      · rw [executed, List.mem_append] at isMoment
        exact isMoment.elim before (ofRest result moment)
      · rw [executed] at isMoment
        exact before isMoment

/-! ## Courses that ask -/

section Asking

variable {cancellation : Cancellation} {phases more : List AnalysisPhase}

/-- The course asks, before one phase after another, whether it is cancelled.  It fails at the
first that is, and otherwise has the value, whatever was tracked before. -/
def Asks (cancellation : Cancellation) (phases : List AnalysisPhase) (value : β)
    (course : Course β) : Prop :=
  ∀ tracker, (course.execute tracker).outcome =
    match phases.find? cancellation.before with
    | some phase => .error (.cancelled phase.name)
    | none => .ok value

theorem succeed_asks (value : β) : (succeed value).Asks cancellation [] value :=
  fun _ => rfl

theorem recordStarted_asks : recordStarted.Asks cancellation [] () :=
  fun _ => rfl

theorem recordCompleted_asks : recordCompleted.Asks cancellation [] () :=
  fun _ => rfl

theorem Asks.inPhase {value : β} {course : Course β}
    (asks : course.Asks cancellation phases value) (phase : AnalysisPhase) :
    (inPhase phase course).Asks cancellation phases value :=
  fun tracker => asks (tracker.inPhase phase)

/-- The second of two steps asks only if the first has its value. -/
theorem Asks.bind {first : Course β} {next : β → Course γ} {value : β} {result : γ}
    (asks : first.Asks cancellation phases value)
    (asksNext : (next value).Asks cancellation more result) :
    (first >>= next).Asks cancellation (phases ++ more) result := by
  intro tracker
  have ended := asks tracker
  change ((andThen first next).execute tracker).outcome = _
  rw [List.find?_append]
  cases cancelled : phases.find? cancellation.before with
  | some phase =>
      rw [cancelled] at ended
      rcases andThen_cases first next tracker with
        ⟨found, succeeded, _⟩ | ⟨error, failed, executed⟩
      · rw [succeeded] at ended
        contradiction
      · have sameError : error = .cancelled phase.name :=
          Except.error.inj (failed.symm.trans ended)
        rw [executed, sameError]
        rfl
  | none =>
      rw [cancelled] at ended
      rcases andThen_cases first next tracker with
        ⟨found, succeeded, executed⟩ | ⟨error, failed, _⟩
      · rw [executed, Except.ok.inj (succeeded.symm.trans ended)]
        exact asksNext (first.execute tracker).left
      · rw [failed] at ended
        contradiction

/-- A first step that never asks leaves the asking to the second. -/
theorem Asks.after_silent {first : Course β} {next : β → Course γ} {value : β} {result : γ}
    (silent : first.Asks cancellation [] value)
    (asksNext : (next value).Asks cancellation phases result) :
    (first >>= next).Asks cancellation phases result :=
  silent.bind asksNext

theorem Asks.after_stage {phase : AnalysisPhase} {value : β} {next : β → Course γ}
    {result : γ} (asksNext : (next value).Asks cancellation phases result) :
    (Course.inPhase phase (succeed value) >>= next).Asks cancellation phases result :=
  .after_silent ((succeed_asks value).inPhase phase) asksNext

end Asking

end Course

end GrowthEstimate
