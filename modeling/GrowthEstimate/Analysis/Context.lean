/-!
Contract: what is known of an analysis while it runs, and how it can end.

Owns: the phases in the order in which they run, the answers that a run gets when it asks whether
it is cancelled, and cancellation tokens that share a flag; why an analysis has no report; the
context of a run, the counts of runs, the scopes that set a part of the context and put it back,
and the courses of computations, whose steps are all that changes what is tracked.
-/

set_option autoImplicit false

namespace GrowthEstimate

/-! ## Failures -/

/-- Why an analysis has no report. -/
inductive AnalysisError where
  | emptyInput
  | inputTooLarge (actual limit : Nat)
  | insufficientSamples (collected required : Nat)
  | cancelled (stage : String)
  | configuration (fault : String)
  | withContext (context : String) (cause : AnalysisError)
  deriving DecidableEq, Repr, Inhabited

namespace AnalysisError

def kind : AnalysisError → String
  | emptyInput => "EmptyInput"
  | inputTooLarge _ _ => "InputTooLarge"
  | insufficientSamples _ _ => "InsufficientSamples"
  | cancelled _ => "Cancelled"
  | configuration _ => "Configuration"
  | withContext _ _ => "WithContext"

def message : AnalysisError → String
  | emptyInput => "Empty input: nothing to analyze"
  | inputTooLarge actual limit =>
      "Input too large: " ++ toString actual ++ " bytes exceeds limit of " ++ toString limit
        ++ " bytes"
  | insufficientSamples collected required =>
      "Insufficient samples: collected " ++ toString collected ++ ", need at least "
        ++ toString required
  | cancelled stage => "Analysis cancelled before " ++ stage
  | configuration fault => "Configuration error: " ++ fault
  | withContext context cause => context ++ ": " ++ cause.message

end AnalysisError

/-! ## Phases and cancellation -/

inductive AnalysisPhase where
  | validation
  | parsing
  | patternMatching
  | aggregation
  | sampling
  | regression
  | reconciliation
  deriving DecidableEq, Repr, Inhabited

namespace AnalysisPhase

/-- The phases, in the order in which they run. -/
def all : List AnalysisPhase :=
  [validation, parsing, patternMatching, aggregation, sampling, regression, reconciliation]

def rank : AnalysisPhase → Nat
  | validation => 0
  | parsing => 1
  | patternMatching => 2
  | aggregation => 3
  | sampling => 4
  | regression => 5
  | reconciliation => 6

def name : AnalysisPhase → String
  | validation => "validation"
  | parsing => "parsing"
  | patternMatching => "pattern_matching"
  | aggregation => "aggregation"
  | sampling => "sampling"
  | regression => "regression"
  | reconciliation => "reconciliation"

end AnalysisPhase

/-- What a run is told before each phase when it asks whether it is cancelled. -/
structure Cancellation where
  before : AnalysisPhase → Bool

namespace Cancellation

def never : Cancellation :=
  ⟨fun _ => false⟩

def always : Cancellation :=
  ⟨fun _ => true⟩

/-- A run that is cancelled while it samples; the phases after sampling are told so. -/
def duringSampling : Cancellation :=
  ⟨fun phase => AnalysisPhase.sampling.rank < phase.rank⟩

/-- Whether a run, once cancelled, stays so. -/
def Monotone (cancellation : Cancellation) : Prop :=
  ∀ earlier later : AnalysisPhase, earlier.rank ≤ later.rank →
    cancellation.before earlier = true → cancellation.before later = true

end Cancellation

/-- Cancellation tokens, each of which looks at one of several flags. -/
structure CancellationTokens where
  flagOf : List Nat
  isSet : List Bool
  deriving DecidableEq, Repr, Inhabited

namespace CancellationTokens

def none : CancellationTokens :=
  ⟨[], []⟩

/-- The tokens with a new one, whose flag is its own. -/
def fresh (tokens : CancellationTokens) : CancellationTokens :=
  ⟨tokens.flagOf ++ [tokens.isSet.length], tokens.isSet ++ [false]⟩

/-- The tokens with a new one that looks at the flag of the token in a slot. -/
def clone (tokens : CancellationTokens) (slot : Nat) : CancellationTokens :=
  match tokens.flagOf[slot]? with
  | some flag => { tokens with flagOf := tokens.flagOf ++ [flag] }
  | Option.none => tokens

def cancel (tokens : CancellationTokens) (slot : Nat) : CancellationTokens :=
  match tokens.flagOf[slot]? with
  | some flag => { tokens with isSet := tokens.isSet.set flag true }
  | Option.none => tokens

def isCancelled (tokens : CancellationTokens) (slot : Nat) : Bool :=
  ((tokens.flagOf[slot]?).bind fun flag => tokens.isSet[flag]?).getD false

def states (tokens : CancellationTokens) : List Bool :=
  (List.range tokens.flagOf.length).map tokens.isCancelled

def cancellation (tokens : CancellationTokens) (slot : Nat) : Cancellation :=
  ⟨fun _ => tokens.isCancelled slot⟩

end CancellationTokens

/-! ## Tracking

A scope puts back the whole context that it found, whatever happens inside of it.  What a course
computes cannot look at the tracker, and executing a course tells the tracker at every moment. -/

/-- What is being done, and to which input. -/
structure AnalysisContext where
  phase : Option AnalysisPhase
  input : Option String
  deriving DecidableEq, Repr, Inhabited

def AnalysisContext.idle : AnalysisContext :=
  ⟨none, none⟩

/-- The context and the counts of runs. -/
structure Tracker where
  context : AnalysisContext
  started : Nat
  completed : Nat
  deriving DecidableEq, Repr, Inhabited

namespace Tracker

def initial : Tracker :=
  ⟨.idle, 0, 0⟩

def recordStarted (tracker : Tracker) : Tracker :=
  { tracker with started := tracker.started + 1 }

def recordCompleted (tracker : Tracker) : Tracker :=
  { tracker with completed := tracker.completed + 1 }

def inPhase (tracker : Tracker) (phase : AnalysisPhase) : Tracker :=
  { tracker with context := { tracker.context with phase := some phase } }

def atInput (tracker : Tracker) (input : String) : Tracker :=
  { tracker with context := { tracker.context with input := some input } }

def restore (tracker : Tracker) (context : AnalysisContext) : Tracker :=
  { tracker with context }

end Tracker

/-- The part of the context that a scope sets. -/
inductive ContextMark where
  | phase (phase : AnalysisPhase)
  | input (input : String)
  deriving DecidableEq, Repr, Inhabited

def ContextMark.enter : ContextMark → Tracker → Tracker
  | .phase entered, tracker => tracker.inPhase entered
  | .input shown, tracker => tracker.atInput shown

/-! ### Courses -/

/-- A computation in steps, each of which may change what is tracked.  A scope is a step: the
tracker is changed before its body, and the context that was found is put back after it. -/
inductive Course : Type → Type 1 where
  | succeed {β : Type} (result : β) : Course β
  | fail {β : Type} (error : AnalysisError) : Course β
  | andThen {β γ : Type} (first : Course β) (next : β → Course γ) : Course γ
  | recordStarted : Course Unit
  | recordCompleted : Course Unit
  | within {β : Type} (mark : ContextMark) (body : Course β) : Course β

/-- What a course ends with, the tracker that it leaves behind even when it fails, and what was
tracked before its first step, between its steps and after its last one. -/
structure Execution (β : Type) where
  outcome : Except AnalysisError β
  left : Tracker
  moments : List Tracker

namespace Course

instance : Monad Course where
  pure := succeed
  bind := andThen

def ofExcept {β : Type} : Except AnalysisError β → Course β
  | .ok result => succeed result
  | .error error => fail error

def inPhase {β : Type} (phase : AnalysisPhase) (body : Course β) : Course β :=
  within (.phase phase) body

def execute {β : Type} : Course β → Tracker → Execution β
  | succeed result, tracker => ⟨.ok result, tracker, [tracker]⟩
  | fail error, tracker => ⟨.error error, tracker, [tracker]⟩
  | andThen first next, tracker =>
      match first.execute tracker with
      | ⟨.ok result, between, before⟩ =>
          let latter := (next result).execute between
          ⟨latter.outcome, latter.left, before ++ latter.moments⟩
      | ⟨.error error, between, before⟩ => ⟨.error error, between, before⟩
  | recordStarted, tracker => ⟨.ok (), tracker.recordStarted, [tracker, tracker.recordStarted]⟩
  | recordCompleted, tracker =>
      ⟨.ok (), tracker.recordCompleted, [tracker, tracker.recordCompleted]⟩
  | within mark body, tracker =>
      let inside := body.execute (mark.enter tracker)
      let left := inside.left.restore tracker.context
      ⟨inside.outcome, left, tracker :: (inside.moments ++ [left])⟩

end Course

/-! ### Open scopes -/

/-- Scopes that are left in any order: the context that each one found, and whether it
is still open. -/
structure OpenScopes where
  tracker : Tracker
  found : List (Option AnalysisContext)
  deriving DecidableEq, Repr, Inhabited

namespace OpenScopes

def initial : OpenScopes :=
  ⟨.initial, []⟩

def enter (scopes : OpenScopes) (step : Tracker → Tracker) : OpenScopes :=
  ⟨step scopes.tracker, scopes.found ++ [some scopes.tracker.context]⟩

/-- Leaves the scope in a slot; a scope that is not open is left alone. -/
def leave (scopes : OpenScopes) (slot : Nat) : OpenScopes :=
  match scopes.found[slot]? with
  | some (some context) =>
      ⟨scopes.tracker.restore context, scopes.found.set slot none⟩
  | _ => scopes

def update (scopes : OpenScopes) (step : Tracker → Tracker) : OpenScopes :=
  { scopes with tracker := step scopes.tracker }

end OpenScopes

end GrowthEstimate
