import AecBench.Evolution.Core

/-!
# Values of one variation call

The limits of a call, the advice it can ask for, and the explicit state it advances, each with
what its constructor checks.

## Main definitions

* `AVOBudget` — the hard limits of one call.
* `AVOAdvice`, `AVOAdviceFailure`, `AVOAdviceRecord`, `AVOAdviceResult` — the advisor's output.
* `AVOState`, `AVOState.check` — the state of a call and what its constructor checks.
* `isRevisionValid` — whether an evaluated revision can be submitted now.
* `CandidateProposalRequest` — what a call is asked to vary.
* `AVOCancellationReason` — why a call is cancelled.

## Implementation notes

* The analysis, the history and the graveyard of a request are left out: a call hands them to the
  runner and reads nothing of them.
-/

namespace AecBench.Evolution

open Validation

/-! ## Limits -/

/-- How much of the material one proposal may change. -/
inductive GraduatedScope
  | skip
  | minimal
  | targeted
  | comprehensive
  deriving DecidableEq

/-- `_SCOPE_ACTION_LIMITS`. -/
def GraduatedScope.actionLimit : GraduatedScope → ℕ
  | skip => 0
  | minimal => 1
  | targeted => 3
  | comprehensive => 5

structure AVOBudget where
  maxModelRequests : ℕ := 12
  maxToolCalls : ℕ := 40
  maxDevelopmentEvaluations : ℕ := 7
  maxInputTokens : Option ℕ := none
  maxOutputTokens : Option ℕ := none
  maxElapsedSeconds : ℚ≥0 := 1800
  maxConsecutiveEvaluationErrors : ℕ := 2
  maxStagnantEvaluations : ℕ := 3
  maxSupervisorInterventions : ℕ := 0
  maxCostUsd : Option ℚ≥0 := none
  deriving DecidableEq

/-- `_require_positive_integer`. -/
def requirePositiveInteger (value : ℕ) (fieldName : String) : Except String Unit :=
  require (0 < value) s!"{fieldName} must be a positive integer"

/-- `_require_finite_positive`. -/
def requireFinitePositive (value : ℚ≥0) (fieldName : String) : Except String Unit :=
  require (0 < value) s!"{fieldName} must be a finite positive number"

/-- What the constructor of a budget checks. -/
def AVOBudget.check (budget : AVOBudget) : Except String Unit := do
  requirePositiveInteger budget.maxModelRequests "max_model_requests"
  requirePositiveInteger budget.maxToolCalls "max_tool_calls"
  requirePositiveInteger budget.maxDevelopmentEvaluations "max_development_evaluations"
  requirePositiveInteger budget.maxConsecutiveEvaluationErrors
    "max_consecutive_evaluation_errors"
  requirePositiveInteger budget.maxStagnantEvaluations "max_stagnant_evaluations"
  requireFinitePositive budget.maxElapsedSeconds "max_elapsed_seconds"
  budget.maxInputTokens.elim (.ok ()) fun limit => requirePositiveInteger limit "max_input_tokens"
  budget.maxOutputTokens.elim (.ok ()) fun limit =>
    requirePositiveInteger limit "max_output_tokens"
  budget.maxCostUsd.elim (.ok ()) fun limit => requireFinitePositive limit "max_cost_usd"

/-! ## Advice -/

inductive AVOAdviceTrigger
  | validDevelopmentStagnation
  | consecutiveInvalidOrFailedEvaluations
  | exhaustedDirectionRequest
  deriving DecidableEq

structure AVOAdvice where
  directions : List String
  reasoning : String

/-- What the constructor of an advice checks; it keeps the directions without their outer white
space, so that directions are compared as they are kept. -/
def AVOAdvice.check (advice : AVOAdvice) : Except String Unit := do
  require (1 ≤ advice.directions.length ∧ advice.directions.length ≤ 3)
    "AVO advice must contain one to three directions"
  let _ ← advice.directions.mapM fun direction =>
    require (¬ Text.Blank direction) "AVO advice directions must not be blank"
  require advice.directions.Nodup "AVO advice directions must be unique"
  requireText advice.reasoning "reasoning"

/-- A confirmed failure of the advisor; its code is always `output_validation_rejected`. -/
structure AVOAdviceFailure where
  detail : String

/-- What an advisor returns: guidance, or a confirmed failure. -/
inductive AdvisorOutput
  | advice (guidance : AVOAdvice)
  | failure (rejection : AVOAdviceFailure)

def AdvisorOutput.check : AdvisorOutput → Except String Unit
  | .advice guidance => guidance.check
  | .failure rejection => requireText rejection.detail "detail"

/-- One confirmed intervention; the validator of the record demands exactly one of an advice and
a failure. -/
structure AVOAdviceRecord where
  triggerReason : AVOAdviceTrigger
  output : AdvisorOutput

/-- The output of one advisor call and the usage of that call. -/
structure AVOAdviceResult where
  output : AdvisorOutput
  usage : ProposalUsage

/-- What the constructors of an advisor's output and of its result check. -/
def AVOAdviceResult.check (result : AVOAdviceResult) : Except String Unit := do
  result.output.check
  require (result.usage.modelRequests = 1 ∧ result.usage.supervisorInterventions = 1)
    "advisor usage must describe exactly one request and intervention"
  require (result.usage.toolCalls = 0 ∧ result.usage.developmentEvaluations = 0)
    "advisor usage must not include tools or revision evaluations"
  require (result.usage.developmentEvaluationCostUsd = none)
    "advisor usage must not include revision evaluation cost"

/-! ## Cancellation -/

inductive AVOCancellationCode
  | requested
  | timeout
  deriving DecidableEq

/-- Why a call is cancelled; the detail is kept without its outer white space. -/
structure AVOCancellationReason where
  code : AVOCancellationCode := .requested
  detail : String := "AVO cancellation requested."
  visible : ¬ Text.Blank detail

/-! ## Requests -/

structure CandidateProposalRequest where
  runId : String
  selection : SelectionPlan
  parent : EvaluatedCandidate
  inspirations : List WorkspaceSnapshot := []
  scope : GraduatedScope
  cycle : ℕ := 1
  memory : List AVOMemoryEntry := []

/-- What the constructor of a request checks. -/
def CandidateProposalRequest.check (request : CandidateProposalRequest) : Except String Unit := do
  requireText request.runId "run_id"
  require (request.parent.snapshot.candidateId = request.selection.parentCandidateId)
    "proposal parent must match the selection parent_candidate_id"
  requirePositiveInteger request.cycle "proposal cycle"
  require (request.inspirations.map (·.candidateId) = request.selection.inspirationCandidateIds)
    "proposal inspirations must match the selected candidate IDs exactly"
  let memory ← validateMemoryEntries request.memory
  require (memory.length ≤ avoMemoryLimit)
    s!"proposal memory must contain at most {avoMemoryLimit} entries"

/-! ## States -/

/-- The explicit state of one variation call. -/
structure AVOState where
  variationId : String
  parentCandidateId : String
  childCandidateId : String
  currentRevision : ℕ
  attempts : List RevisionAttempt := []
  bestAttemptId : Option String := none
  consecutiveWithoutProgress : ℕ := 0
  consecutiveEvaluationErrors : ℕ := 0
  exhaustedDirectionRequested : Bool := false
  supervisionRecords : List AVOAdviceRecord := []
  memory : List AVOMemoryEntry := []
  usage : ProposalUsage := {}
  terminalStatus : Option ProposalStatus := none
  parentSnapshot : Option WorkspaceSnapshot := none

/-- The trials of a list of attempts, in order. -/
def trialIdsOf (attempts : List RevisionAttempt) : List String :=
  attempts.flatMap fun attempt => attempt.evaluated.observations.map (·.trial.trialId)

/-- What the constructor of a state checks. -/
def AVOState.check (state : AVOState) : Except String Unit := do
  requireText state.variationId "variation_id"
  requireText state.parentCandidateId "parent_candidate_id"
  requireText state.childCandidateId "child_candidate_id"
  require (state.supervisionRecords.length ≤ state.usage.supervisorInterventions)
    "supervision_records cannot exceed supervisor_interventions usage"
  require (state.terminalStatus ≠ none → state.exhaustedDirectionRequested = false)
    "terminal AVO state cannot retain a pending exhausted-direction request"
  require (state.attempts.map (·.attemptId)).Nodup "attempt IDs must be unique"
  require (state.attempts.map (·.revision)).Nodup "attempt revisions must be unique"
  require (state.attempts.map (·.evaluated.snapshot.candidateId)).Nodup
    "revision attempt snapshot IDs must be unique"
  require (trialIdsOf state.attempts).Nodup "revision attempt trial IDs must be unique"
  require (∀ best ∈ state.bestAttemptId, best ∈ state.attempts.map (·.attemptId))
    "best_attempt_id must reference an attempt"
  let memory ← validateMemoryEntries state.memory
  require (memory.length ≤ avoMemoryLimit)
    s!"AVO state memory must contain at most {avoMemoryLimit} entries"
  require (∀ snapshot ∈ state.parentSnapshot, snapshot.candidateId = state.parentCandidateId)
    "parent_snapshot must match parent_candidate_id"

/-- `is_revision_valid`: whether the revision is current, has exact evidence and differs from
the parent. The state of a session always has the snapshot of the parent. -/
def isRevisionValid (state : AVOState) (revision : ℕ) (snapshot : WorkspaceSnapshot) :
    Except String Bool :=
  match state.attempts.find? (·.revision = revision) with
  | none => .ok false
  | some attempt =>
    if revision ≠ state.currentRevision then .ok false
    else
      match state.parentSnapshot with
      | none => .error "exact parent_snapshot is required to validate revision material"
      | some parent =>
        if parent.candidateId ≠ state.parentCandidateId then
          .error "parent_snapshot must match parent_candidate_id"
        else
          .ok (¬ attempt.evaluated.snapshot.SameMaterial parent ∧
            attempt.evaluated.snapshot.SameMaterial snapshot)

/-- What a checked state satisfies. -/
structure AVOState.Valid (state : AVOState) : Prop where
  variationId : ¬ Text.Blank state.variationId
  parentCandidateId : ¬ Text.Blank state.parentCandidateId
  childCandidateId : ¬ Text.Blank state.childCandidateId
  records : state.supervisionRecords.length ≤ state.usage.supervisorInterventions
  direction : state.terminalStatus ≠ none → state.exhaustedDirectionRequested = false
  attemptIds : (state.attempts.map (·.attemptId)).Nodup
  revisions : (state.attempts.map (·.revision)).Nodup
  snapshotIds : (state.attempts.map (·.evaluated.snapshot.candidateId)).Nodup
  trialIds : (trialIdsOf state.attempts).Nodup
  best : ∀ best ∈ state.bestAttemptId, best ∈ state.attempts.map (·.attemptId)
  memory : (state.memory.map AVOMemoryEntry.identity).Nodup
  memoryLimit : state.memory.length ≤ avoMemoryLimit
  parentSnapshot : ∀ snapshot ∈ state.parentSnapshot,
    snapshot.candidateId = state.parentCandidateId

lemma AVOState.check_eq_ok {state : AVOState} : state.check = .ok () ↔ state.Valid := by
  simp only [AVOState.check, bind_eq_ok, requireText_eq_ok, require_eq_ok, Unique.exists_iff,
    validateMemoryEntries_eq_ok]
  constructor
  · rintro ⟨h1, h2, h3, h4, h5, h6, h7, h8, h9, h10, _, ⟨h11, rfl⟩, h12, h13⟩
    exact ⟨h1, h2, h3, h4, h5, h6, h7, h8, h9, h10, h11, h12, h13⟩
  · intro h
    exact ⟨h.variationId, h.parentCandidateId, h.childCandidateId, h.records, h.direction,
      h.attemptIds, h.revisions, h.snapshotIds, h.trialIds, h.best, _, ⟨h.memory, rfl⟩,
      h.memoryLimit, h.parentSnapshot⟩

end AecBench.Evolution
