import GrowthEstimate.Proofs.Analysis.Run

/-!
Contract: what the runs of a thread do to what is tracked on it.

Owns: the stages that record nothing, what one run shows and leaves behind, threads of runs and
nested scopes, and what holds of a thread whatever its runs end with.

Does **not** own: which outcome a run has, and scopes that are left in another order than the
reverse of the one they were entered in.

All stages of a run are silent but for its two counts, so every moment of it shows the input that
it found.  A scope puts back the context that it found when it was entered.  Scopes that are nested
are therefore lexical: where a run stands in the thread tells the context that it finds, and no run
before it can change that.
-/

set_option autoImplicit false

namespace GrowthEstimate

/-! ## Stages -/

namespace Analysis

open Course (Silent Completes)

variable {α : Type}

theorem checkpoint_silent (request : AnalysisRequest α) (next : AnalysisPhase) :
    (checkpoint request next).Silent := by
  unfold checkpoint
  split <;> trivial

/-- A stage that computes a value sets its phase and nothing else. -/
theorem stage_silent {β : Type} (phase : AnalysisPhase) (value : β) :
    (Course.inPhase phase (.succeed value)).Silent :=
  trivial

variable [Scalar α]

theorem structureOf_silent (request : AnalysisRequest α) (text : List Char) :
    (structureOf request text).Silent := by
  unfold structureOf
  refine (checkpoint_silent request .parsing).bind fun _ => ?_
  refine (stage_silent .parsing _).bind fun parsed => ?_
  refine (checkpoint_silent request .patternMatching).bind fun _ => ?_
  refine (stage_silent .patternMatching _).bind fun found => ?_
  refine (checkpoint_silent request .aggregation).bind fun _ => ?_
  refine (stage_silent .aggregation _).bind fun verdict => ?_
  trivial

theorem fitSamples_silent (request : AnalysisRequest α) (outcome : SamplingOutcome α) :
    (fitSamples request outcome).Silent := by
  unfold fitSamples
  cases RegressionReport.ofSamples outcome.samples with
  | error collected => exact Silent.bind trivial fun _ => trivial
  | ok report => exact Silent.bind trivial fun _ => trivial

theorem measureIfEnabled_silent (request : AnalysisRequest α)
    (structural : StructuralVerdict α) : (measureIfEnabled request structural).Silent := by
  unfold measureIfEnabled measure
  split
  · refine (checkpoint_silent request .sampling).bind fun _ => ?_
    refine (stage_silent .sampling _).bind fun sampled => ?_
    cases sampled with
    | error collected => trivial
    | ok outcome =>
        refine (checkpoint_silent request .regression).bind fun _ => ?_
        exact fitSamples_silent request outcome
  · trivial

theorem stages_completes (request : AnalysisRequest α) (text : List Char) :
    (stages request text).Completes := by
  unfold stages
  refine .after ((Silent.ofExcept (checkRequest request text)).inPhase .validation) fun _ => ?_
  refine .after (structureOf_silent request text) fun structured => ?_
  split
  · exact .now _
  · refine .after (measureIfEnabled_silent request structured.verdict) fun measured => ?_
    refine .after (checkpoint_silent request .reconciliation) fun _ => ?_
    refine .after (stage_silent .reconciliation _) fun report => ?_
    exact .now report

/-! ## Runs -/

/-- A run leaves the tracker that it found, with one more run in its counts. -/
theorem run_left (request : AnalysisRequest α) (text : List Char) (tracker : Tracker) :
    (run request text tracker).left =
      if (run request text tracker).outcome.isOk then tracker.recordStarted.recordCompleted
      else tracker.recordStarted :=
  (stages_completes request text).left_eq tracker.recordStarted

/-- A run begins with the tracker that it found.  Then it is started, and nothing is changed but
the phase until it is completed. -/
theorem run_moments (request : AnalysisRequest α) (text : List Char) (tracker : Tracker) :
    ∀ moment ∈ (run request text tracker).moments, moment = tracker ∨
      ∃ phase, moment = tracker.recordStarted.withPhase phase
        ∨ moment = tracker.recordStarted.recordCompleted.withPhase phase := by
  intro moment isMoment
  have isEither : moment ∈ [tracker, tracker.recordStarted] ∨
      moment ∈ ((stages request text).execute tracker.recordStarted).moments :=
    List.mem_append.mp isMoment
  rcases isEither with isEarly | isLater
  · rw [List.mem_pair] at isEarly
    exact isEarly.imp_right fun isStarted => ⟨tracker.context.phase, Or.inl isStarted⟩
  · exact Or.inr ((stages_completes request text).moments_eq tracker.recordStarted moment isLater)

theorem run_outcome (request : AnalysisRequest α) (text : List Char) (tracker : Tracker) :
    (run request text tracker).outcome = outcome request text := by
  have ends := run_eq_failure? request text tracker
  have endsAlone := run_eq_failure? request text .initial
  exact ends.trans endsAlone.symm

theorem isOk_outcome (request : AnalysisRequest α) (text : List Char) :
    (outcome request text).isOk = (failure? request text).isNone := by
  rw [outcome, run_eq_failure?]
  cases failure? request text <;> rfl

theorem run_tracker (request : AnalysisRequest α) (text : List Char) (tracker : Tracker) :
    (run request text tracker).left =
      ⟨tracker.context, tracker.started + 1,
        tracker.completed + if (outcome request text).isOk then 1 else 0⟩ := by
  rw [run_left, run_outcome]
  split <;> rfl

/-- A run of a thread: the tracker that it found, and how it went. -/
structure RunRecord (α : Type) where
  found : Tracker
  execution : Execution (AnalysisReport α)

def record (request : AnalysisRequest α) (text : List Char) (tracker : Tracker) : RunRecord α :=
  ⟨tracker, run request text tracker⟩

/-- A run leaves the context as it found it and shows the same input at every moment.  It is
started once, it is completed once if it has a report and not at all if it has none, and it is
never completed before it is started. -/
structure RunRecord.Framed {α : Type} (record : RunRecord α) : Prop where
  begins : record.execution.moments.head? = some record.found
  ends : record.execution.moments.getLast? = some record.execution.left
  context : record.execution.left.context = record.found.context
  input : ∀ moment ∈ record.execution.moments, moment.context.input = record.found.context.input
  started : record.execution.left.started = record.found.started + 1
  completed : record.execution.left.completed =
    record.found.completed + if record.execution.outcome.isOk then 1 else 0
  startedFirst : ∀ moment ∈ record.execution.moments,
    record.found.completed ≤ moment.completed ∧
      moment.completed + record.found.started ≤ moment.started + record.found.completed

theorem record_framed (request : AnalysisRequest α) (text : List Char) (tracker : Tracker) :
    (record request text tracker).Framed := by
  have isLeft := run_tracker request text tracker
  have passes := run_moments request text tracker
  constructor
  case begins => exact Course.head?_moments (course request text) tracker
  case ends => exact Course.getLast?_moments (course request text) tracker
  case context =>
    rw [record, isLeft]
  case input =>
    intro moment isMoment
    rcases passes moment isMoment with rfl | ⟨phase, rfl | rfl⟩ <;> rfl
  case started =>
    rw [record, isLeft]
  case completed =>
    rw [record, isLeft, run_outcome]
  case startedFirst =>
    intro moment isMoment
    show tracker.completed ≤ _ ∧ _ + tracker.started ≤ _ + tracker.completed
    rcases passes moment isMoment with rfl | ⟨phase, rfl | rfl⟩
    · omega
    · simp only [Tracker.withPhase, Tracker.recordStarted]
      omega
    · simp only [Tracker.withPhase, Tracker.recordStarted, Tracker.recordCompleted]
      omega

end Analysis

/-! ## Scopes -/

namespace ContextMark

/-- The context inside of a scope. -/
def on : ContextMark → AnalysisContext → AnalysisContext
  | .phase entered, context => { context with phase := some entered }
  | .input shown, context => { context with input := some shown }

theorem enter_eq (mark : ContextMark) (tracker : Tracker) :
    mark.enter tracker = tracker.restore (mark.on tracker.context) := by
  cases mark <;> rfl

end ContextMark

namespace OpenScopes

/-- A scope is left by its slot, and the slots behind it belong to scopes that were inside of it
and are left already. -/
theorem leave_innermost (tracker : Tracker) (found : List (Option AnalysisContext))
    (context : AnalysisContext) (inner : Nat) :
    leave ⟨tracker, found ++ [some context] ++ List.replicate inner none⟩ found.length =
      ⟨tracker.restore context, found ++ List.replicate (inner + 1) none⟩ := by
  simp [leave, List.replicate_succ]

end OpenScopes

/-! ## Threads -/

/-- What a thread does: runs, one after another, some of them inside of scopes. -/
inductive ThreadWork (α : Type) where
  | done
  | analyze (request : AnalysisRequest α) (text : List Char) (rest : ThreadWork α)
  | within (mark : ContextMark) (body rest : ThreadWork α)

namespace ThreadWork

variable {α : Type}

/-- The runs of a thread, in their order. -/
def runs : ThreadWork α → List (AnalysisRequest α × List Char)
  | done => []
  | analyze request text rest => (request, text) :: rest.runs
  | within _ body rest => body.runs ++ rest.runs

def scopeCount : ThreadWork α → Nat
  | done => 0
  | analyze _ _ rest => rest.scopeCount
  | within _ body rest => body.scopeCount + 1 + rest.scopeCount

/-- For each run the context that the scopes around it make of the context of the thread. -/
def surroundings : ThreadWork α → AnalysisContext → List AnalysisContext
  | done, _ => []
  | analyze _ _ rest, context => context :: rest.surroundings context
  | within mark body rest, context =>
      body.surroundings (mark.on context) ++ rest.surroundings context

variable [Scalar α]

/-- Runs, and enters and leaves scopes, in the order of the thread. -/
def execute : ThreadWork α → OpenScopes → OpenScopes
  | done, scopes => scopes
  | analyze request text rest, scopes =>
      rest.execute (scopes.update fun tracker => (Analysis.run request text tracker).left)
  | within mark body rest, scopes =>
      rest.execute ((body.execute (scopes.enter mark.enter)).leave scopes.found.length)

/-- The records of the runs, in their order. -/
def records : ThreadWork α → OpenScopes → List (Analysis.RunRecord α)
  | done, _ => []
  | analyze request text rest, scopes =>
      Analysis.record request text scopes.tracker
        :: rest.records (scopes.update fun tracker => (Analysis.run request text tracker).left)
  | within mark body rest, scopes =>
      body.records (scopes.enter mark.enter)
        ++ rest.records ((body.execute (scopes.enter mark.enter)).leave scopes.found.length)

/-- How many runs of a thread have a report. -/
def reportCount (work : ThreadWork α) : Nat :=
  work.runs.countP fun (request, text) => (Analysis.outcome request text).isOk

/-- What a thread leaves behind: the context and the open scopes as it found them, and every run
in the counts. -/
theorem execute_eq (work : ThreadWork α) (scopes : OpenScopes) :
    work.execute scopes =
      ⟨⟨scopes.tracker.context, scopes.tracker.started + work.runs.length,
          scopes.tracker.completed + work.reportCount⟩,
        scopes.found ++ List.replicate work.scopeCount none⟩ := by
  induction work generalizing scopes with
  | done => simp [execute, runs, reportCount, scopeCount]
  | analyze request text rest ofRest =>
      rw [execute, ofRest, OpenScopes.update, Analysis.run_tracker]
      simp only [runs, reportCount, scopeCount, List.length_cons, List.countP_cons, Nat.add_assoc,
        Nat.add_comm]
  | within mark body rest ofBody ofRest =>
      rw [execute, ofBody, OpenScopes.enter, OpenScopes.leave_innermost, ofRest, mark.enter_eq]
      simp only [runs, reportCount, scopeCount, Tracker.restore, List.length_append,
        List.countP_append, Nat.add_assoc, List.append_assoc, List.replicate_append_replicate]

/-! ## Records -/

/-- Every run in a thread finds the context that the scopes around it make, whatever the runs before
it ended with. -/
theorem records_contexts (work : ThreadWork α) (scopes : OpenScopes) :
    (work.records scopes).map (fun record => record.found.context) =
      work.surroundings scopes.tracker.context := by
  induction work generalizing scopes with
  | done => rfl
  | analyze request text rest ofRest =>
      rw [records, List.map_cons, ofRest, OpenScopes.update, Analysis.run_tracker]
      rfl
  | within mark body rest ofBody ofRest =>
      rw [records, List.map_append, ofBody, ofRest, execute_eq, OpenScopes.enter,
        OpenScopes.leave_innermost, mark.enter_eq]
      rfl

theorem records_outcomes (work : ThreadWork α) (scopes : OpenScopes) :
    (work.records scopes).map (fun record => record.execution.outcome) =
      work.runs.map fun (request, text) => Analysis.outcome request text := by
  induction work generalizing scopes with
  | done => rfl
  | analyze request text rest ofRest =>
      rw [records, runs, List.map_cons, List.map_cons, ofRest, Analysis.record,
        Analysis.run_outcome]
  | within mark body rest ofBody ofRest =>
      rw [records, runs, List.map_append, List.map_append, ofBody, ofRest]

theorem countP_records (work : ThreadWork α) (scopes : OpenScopes) :
    (work.records scopes).countP (fun record => record.execution.outcome.isOk) =
      work.reportCount := by
  have outcomes := congrArg (List.countP Except.isOk) (records_outcomes work scopes)
  rw [List.countP_map, List.countP_map] at outcomes
  exact outcomes

/-- Every record is that of a run of the thread, which began when no more runs had been completed
since the thread began than had been started. -/
theorem exists_run_of_mem_records {work : ThreadWork α} {scopes : OpenScopes}
    {record : Analysis.RunRecord α} (isRecord : record ∈ work.records scopes) :
    ∃ request text tracker, record = Analysis.record request text tracker ∧
      tracker.completed + scopes.tracker.started ≤ tracker.started + scopes.tracker.completed := by
  induction work generalizing scopes with
  | done => contradiction
  | analyze request text rest ofRest =>
      rw [records, List.mem_cons] at isRecord
      rcases isRecord with rfl | isLater
      · exact ⟨request, text, scopes.tracker, rfl, by omega⟩
      · obtain ⟨later, laterText, tracker, isRun, ordered⟩ := ofRest isLater
        refine ⟨later, laterText, tracker, isRun, ?_⟩
        rw [OpenScopes.update, Analysis.run_tracker] at ordered
        simp only at ordered
        split at ordered <;> omega
  | within mark body rest ofBody ofRest =>
      rw [records, List.mem_append] at isRecord
      rcases isRecord with isInside | isBehind
      · obtain ⟨request, text, tracker, isRun, ordered⟩ := ofBody isInside
        rw [OpenScopes.enter, mark.enter_eq] at ordered
        exact ⟨request, text, tracker, isRun, ordered⟩
      · obtain ⟨request, text, tracker, isRun, ordered⟩ := ofRest isBehind
        refine ⟨request, text, tracker, isRun, ?_⟩
        have fewer : body.reportCount ≤ body.runs.length := List.countP_le_length
        rw [execute_eq, OpenScopes.enter, OpenScopes.leave_innermost, mark.enter_eq] at ordered
        simp only [Tracker.restore] at ordered
        omega

/-! ## Frames -/

/-- The runs of a thread leave nothing behind but their counts.  Each is framed, finds the context
that the scopes around it make, and ends as it would if nothing had been done before it. -/
structure Framed (work : ThreadWork α) (scopes : OpenScopes) : Prop where
  context : (work.execute scopes).tracker.context = scopes.tracker.context
  started : (work.execute scopes).tracker.started = scopes.tracker.started + work.runs.length
  completed : (work.execute scopes).tracker.completed = scopes.tracker.completed
    + (work.records scopes).countP fun record => record.execution.outcome.isOk
  runs : ∀ record ∈ work.records scopes, record.Framed
  surroundings : (work.records scopes).map (fun record => record.found.context) =
    work.surroundings scopes.tracker.context
  outcomes : (work.records scopes).map (fun record => record.execution.outcome) =
    work.runs.map fun (request, text) => Analysis.outcome request text
  startedFirst : scopes.tracker.completed ≤ scopes.tracker.started →
    (work.execute scopes).tracker.completed ≤ (work.execute scopes).tracker.started ∧
      ∀ record ∈ work.records scopes, ∀ moment ∈ record.execution.moments,
        moment.completed ≤ moment.started

/-- Every thread is framed, whatever its runs are asked for, whenever they are cancelled, however
they end, and in whatever scopes they stand. -/
theorem execute_framed (work : ThreadWork α) (scopes : OpenScopes) : work.Framed scopes := by
  have framed : ∀ record ∈ work.records scopes, record.Framed := by
    intro record isRecord
    obtain ⟨request, text, tracker, rfl, _⟩ := exists_run_of_mem_records isRecord
    exact Analysis.record_framed request text tracker
  constructor
  case context => rw [execute_eq]
  case started => rw [execute_eq]
  case completed => rw [execute_eq, countP_records]
  case runs => exact framed
  case surroundings => exact records_contexts work scopes
  case outcomes => exact records_outcomes work scopes
  case startedFirst =>
    intro ordered
    constructor
    · have fewer : work.reportCount ≤ work.runs.length := List.countP_le_length
      rw [execute_eq]
      exact Nat.add_le_add ordered fewer
    · intro record isRecord moment isMoment
      obtain ⟨request, text, tracker, rfl, orderedAtRun⟩ := exists_run_of_mem_records isRecord
      have inRun := ((framed _ isRecord).startedFirst moment isMoment).2
      change moment.completed + tracker.started ≤ moment.started + tracker.completed at inRun
      omega

/-- A loop that is analyzed in the scope of its file, then again in a phase of its own until it is
cancelled, and refused for its sizes outside of all scopes. -/
theorem execute_framed_nested :
    let request : AnalysisRequest Float := .ofOptions .standard
    let cancelled := { request with cancellation := .always }
    let refused := { request with
      options := { AnalysisOptions.standard with sampleSizes := [100, 10] } }
    let text := "for x in xs:\n  use(x)\n".toList
    let work : ThreadWork Float :=
      .within (.input "loop.py")
        (.analyze request text (.within (.phase .sampling) (.analyze cancelled text .done) .done))
        (.analyze refused text .done)
    let finished := (work.execute .initial).tracker
    let first := Analysis.record request text ⟨⟨none, some "loop.py"⟩, 0, 0⟩
    finished = ⟨.idle, 3, 1⟩ ∧ first ∈ work.records .initial ∧ first.Framed ∧
      (work.records .initial).map (fun record => record.found.context) =
        [⟨none, some "loop.py"⟩, ⟨some .sampling, some "loop.py"⟩, .idle] ∧
      finished.completed ≤ finished.started := by
  intro request cancelled refused text work finished first
  have framed := execute_framed work .initial
  have isFirst : first ∈ work.records .initial := List.mem_cons_self
  have oneReport : work.reportCount = 1 := by
    have accepted : (Analysis.failure? request text).isNone = true := by decide +kernel
    have stopped : (Analysis.failure? cancelled text).isNone = false := by decide +kernel
    have faulty : (Analysis.failure? refused text).isNone = false := by decide +kernel
    simp only [work, reportCount, runs, List.cons_append, List.nil_append, List.countP_cons,
      List.countP_nil, Analysis.isOk_outcome, accepted, stopped, faulty]
    rfl
  have isFinished : finished = ⟨.idle, 3, 1⟩ := by
    have started : finished.started = 3 := framed.started
    have completed : finished.completed = 1 := by
      rw [framed.completed, countP_records, oneReport]
      rfl
    have context : finished.context = .idle := framed.context
    rw [← started, ← completed, ← context]
  have ordered : OpenScopes.initial.tracker.completed ≤ OpenScopes.initial.tracker.started :=
    le_refl _
  exact ⟨isFinished, isFirst, framed.runs first isFirst, framed.surroundings,
    (framed.startedFirst ordered).1⟩

end ThreadWork

end GrowthEstimate
