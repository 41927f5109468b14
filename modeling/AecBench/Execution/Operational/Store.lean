import AecBench.Execution.Operational.Schema

/-!
# Runs, plans, trials, work items and attempts

The methods of the operational store other than those on leases. A write method is one
`BEGIN IMMEDIATE` transaction: it takes the database and either fails, which rolls the
transaction back, or gives its answer and the database it commits.

## Main definitions

* `OperationalStore.createRun`, `updateRun`, `requestCancellation`, `putPlan`, `updatePlan`,
  `putPlannedTrial`, `updatePlannedTrial`, `completePlanIfTerminal` — runs and plans.
* `OperationalStore.createWorkItem`, `updateWorkItem`, `scheduleRetry` — work items.
* `OperationalStore.createAttempt`, `createAttemptForLease`, `transitionAttempt` — attempts.
* `OperationalStore.recordBackendSubmission`, `transitionBackendSubmission`,
  `bindBackendSubmissionExternalIds` — backend submissions.
* `OperationalStore.listWorkItems` and its siblings — the ordered reads.

## Implementation notes

* The row an `UPDATE` by primary key returns is the updated row, so it is computed from the row
  that was required.
* `freshId` stands for `new_entity_id`: an id that no row has. The source draws 74 random bits
  and relies on their never colliding.
-/

namespace AecBench.Execution

/-- The answer of a write transaction and the database it commits. -/
abbrev Committed (α : Type) := α × OperationalStore

/-- An id that is not among `ids`. -/
def freshId (ids : List Uuid) : Uuid := ids.foldr max 0 + 1

lemma le_foldr_max {ns : List ℕ} {n : ℕ} (h : n ∈ ns) : n ≤ ns.foldr max 0 := by
  induction ns with
  | nil => cases h
  | cons m ns ih =>
    rcases List.mem_cons.mp h with rfl | h
    · exact le_max_left _ _
    · exact (ih h).trans (le_max_right _ _)

lemma freshId_not_mem (ids : List Uuid) : freshId ids ∉ ids :=
  fun h => absurd (le_foldr_max h) (Nat.not_succ_le_self _)

/-- The state counts as settled when a plan or a run is closed. -/
def TrialState.isTerminal : TrialState → Bool
  | .succeeded | .failed | .cancelled | .invalid => true
  | _ => false

/-- The state counts as settled when a plan or a run is closed. -/
def WorkItemState.isTerminal : WorkItemState → Bool
  | .succeeded | .failed | .cancelled | .invalid => true
  | _ => false

/-- `_required_text`. -/
def requiredText (value label : String) : Except StoreError String :=
  if isBlank value then .error (.valueError s!"{label} must not be blank") else .ok value

namespace OperationalStore

variable (s : OperationalStore)

/-! ## Runs -/

def createRun (runId : Uuid) (specRef : String) (status : RunStatus) (now : Time) :
    Except StoreError (Committed RunRecord) :=
  match s.run? runId with
  | some existing =>
    if existing.specRef ≠ specRef then
      .error (.conflict s!"run identity already has different content: {runId}")
    else .ok (existing, s)
  | none =>
    let row : RunRecord :=
      { runId := runId, status := status, specRef := specRef, createdAt := now
        startedAt := none, finishedAt := none, updatedAt := now
        cancellationRequestedAt := none }
    .ok (row, { s with runs := s.runs ++ [row] })

/-- The columns `update_run` writes. -/
def RunRecord.withStatus (status : RunStatus) (now : Time) (row : RunRecord) : RunRecord :=
  { row with
    status := status
    startedAt := row.startedAt <|> (if status = .running then some now else none)
    finishedAt := row.finishedAt <|>
      (if status = .completed ∨ status = .failed ∨ status = .cancelled then some now else none)
    updatedAt := now }

def updateRun (runId : Uuid) (status : RunStatus) (now : Time) :
    Except StoreError (Committed RunRecord) := do
  let row ← s.requireRun runId
  return (RunRecord.withStatus status now row,
    s.setRuns (fun r => r.runId = runId) (RunRecord.withStatus status now))

/-- Where `request_cancellation` moves the state of a work item. -/
def cancelledState : WorkItemState → WorkItemState
  | .queued => .cancelled
  | .leased | .running => .cancelRequested
  | state => state

/-- The work items and planned trials that meet a condition are asked to stop. -/
def cancelWork (inScope : WorkItemRecord → Prop) [DecidablePred inScope]
    (trialInScope : PlannedTrialRecord → Prop) [DecidablePred trialInScope] (now : Time) :
    OperationalStore :=
  (s.setWorkItems
    (fun w => inScope w ∧ (w.state = .queued ∨ w.state = .leased ∨ w.state = .running))
    (fun w => { w with state := cancelledState w.state, updatedAt := now })).setPlannedTrials
      (fun t => trialInScope t ∧ (t.state = .planned ∨ t.state = .queued))
      (fun t => { t with state := .cancelled, updatedAt := now })

/-- The run records the time of the first request for its cancellation. -/
def markCancellationRequested (runId : Uuid) (now : Time) : OperationalStore :=
  s.setRuns (fun r => r.runId = runId) fun r =>
    { r with
      cancellationRequestedAt := r.cancellationRequestedAt <|> some now
      updatedAt := now }

/-- No planned trial and no work item of the plan is unsettled. -/
def planSettled (planId : Uuid) : Prop :=
  (∀ t ∈ s.plannedTrials, t.planId = planId → t.state.isTerminal = true) ∧
    ∀ w ∈ s.workItems, w.planId = planId → w.state.isTerminal = true

instance (planId : Uuid) : Decidable (s.planSettled planId) := by
  unfold planSettled; infer_instance

/-- Close the plans of the run that have nothing unsettled. -/
def closeSettledPlans (runId : Uuid) (now : Time) : OperationalStore :=
  s.setPlans (fun p => p.runId = runId ∧ s.planSettled p.planId) fun p =>
    { p with state := .closed, updatedAt := now }

/-- The number of unsettled planned trials and work items of the run. -/
def remaining (runId : Uuid) : ℕ :=
  s.plannedTrials.countP (fun t => t.runId = runId ∧ ¬ t.state.isTerminal) +
    s.workItems.countP (fun w => w.runId = runId ∧ ¬ w.state.isTerminal)

/-- Move the run to a final status. -/
def finishRun (runId : Uuid) (status : RunStatus) (now : Time) : OperationalStore :=
  s.setRuns (fun r => r.runId = runId) fun r =>
    { r with status := status, finishedAt := r.finishedAt <|> some now, updatedAt := now }

/-- The work items and planned trials of the run, or of one trial, are asked to stop. -/
def applyCancellation (runId : Uuid) (trialId : Option Uuid) (now : Time) :
    Except StoreError OperationalStore :=
  match trialId with
  | none =>
    .ok ((s.markCancellationRequested runId now).cancelWork (fun w => w.runId = runId)
      (fun t => t.runId = runId) now)
  | some trial => do
    let row ← s.requirePlannedTrial trial
    if row.runId ≠ runId then .error (.conflict "trial belongs to a different run")
    else return s.cancelWork (fun w => w.trialId = trial) (fun t => t.trialId = trial) now

/-- Close what has become settled, and cancel the run when nothing remains. -/
def closeAfterCancellation (runId : Uuid) (now : Time) : OperationalStore :=
  let closed := s.closeSettledPlans runId now
  if closed.remaining runId = 0 then closed.finishRun runId .cancelled now else closed

def requestCancellation (runId : Uuid) (trialId : Option Uuid) (now : Time) :
    Except StoreError (Committed RunRecord) := do
  let run ← s.requireRun runId
  if run.status = .completed ∨ run.status = .failed ∨ run.status = .cancelled then
    return (run, s)
  else
    let cancelled ← s.applyCancellation runId trialId now
    let closed := cancelled.closeAfterCancellation runId now
    return (← closed.requireRun runId, closed)

/-! ## Plans and planned trials -/

def putPlan (planId runId : Uuid) (planRef : String) (state : PlanState) (now : Time) :
    Except StoreError (Committed PlanRecord) := do
  let _ ← s.requireRun runId
  match s.plan? planId with
  | some existing =>
    if existing.runId ≠ runId ∨ existing.planRef ≠ planRef then
      .error (.conflict s!"plan identity already has different content: {planId}")
    else return (existing, s)
  | none =>
    let row : PlanRecord :=
      { planId := planId, runId := runId, state := state, planRef := planRef
        createdAt := now, updatedAt := now }
    return (row, { s with plans := s.plans ++ [row] })

def updatePlan (planId : Uuid) (state : PlanState) (now : Time) :
    Except StoreError (Committed PlanRecord) := do
  let row ← s.requirePlan planId
  return ({ row with state := state, updatedAt := now },
    s.setPlans (fun p => p.planId = planId) fun p => { p with state := state, updatedAt := now })

def putPlannedTrial (trialId planId runId : Uuid) (ordinal : ℕ) (state : TrialState)
    (now : Time) : Except StoreError (Committed PlannedTrialRecord) :=
  if ordinal = 0 then .error (.valueError "ordinal must be greater than zero")
  else do
    let plan ← s.requirePlan planId
    let _ ← s.requireRun runId
    if plan.runId ≠ runId then
      .error (.conflict "planned trial plan belongs to a different run")
    else match s.plannedTrial? trialId with
      | some existing =>
        if existing.planId ≠ planId ∨ existing.runId ≠ runId ∨ existing.ordinal ≠ ordinal then
          .error (.conflict s!"trial identity already has different content: {trialId}")
        else return (existing, s)
      | none =>
        if s.plannedTrials.any fun t => t.planId = planId ∧ t.ordinal = ordinal then
          .error (.conflict
            s!"plan ordinal already belongs to another trial: {planId} ordinal {ordinal}")
        else
          let row : PlannedTrialRecord :=
            { trialId := trialId, planId := planId, runId := runId, ordinal := ordinal
              state := state, createdAt := now, updatedAt := now }
          return (row, { s with plannedTrials := s.plannedTrials ++ [row] })

def updatePlannedTrial (trialId : Uuid) (state : TrialState) (now : Time) :
    Except StoreError (Committed PlannedTrialRecord) := do
  let row ← s.requirePlannedTrial trialId
  return ({ row with state := state, updatedAt := now },
    s.setPlannedTrials (fun t => t.trialId = trialId) fun t =>
      { t with state := state, updatedAt := now })

/-- The counts over the planned trials and work items in scope say that the scope is complete:
it has a trial, as many work items as trials, and nothing unsettled. -/
def scopeComplete (trialInScope : PlannedTrialRecord → Bool)
    (workInScope : WorkItemRecord → Bool) : Bool :=
  let plannedCount := s.plannedTrials.countP trialInScope
  let nonTerminalTrialCount :=
    s.plannedTrials.countP fun t => trialInScope t && !t.state.isTerminal
  let workCount := s.workItems.countP workInScope
  let nonTerminalCount := s.workItems.countP fun w => workInScope w && !w.state.isTerminal
  0 < plannedCount && workCount = plannedCount && nonTerminalTrialCount = 0 &&
    nonTerminalCount = 0

/-- The status a run ends with when its last plan completes. -/
def completionStatus (run : RunRecord) : RunStatus :=
  if run.cancellationRequestedAt.isSome then .cancelled else .completed

def completePlanIfTerminal (planId runId : Uuid) (now : Time) :
    Except StoreError (Committed (Option (PlanRecord × RunRecord))) := do
  let plan ← s.requirePlan planId
  if plan.runId ≠ runId then .error (.conflict "plan belongs to a different run")
  else if s.scopeComplete (fun t => t.planId = planId) (fun w => w.planId = planId) then
    let run ← s.requireRun runId
    let closed := s.setPlans (fun p => p.planId = planId) fun p =>
      { p with state := .closed, updatedAt := now }
    let finished :=
      if closed.scopeComplete (fun t => t.runId = runId) (fun w => w.runId = runId) then
        closed.finishRun runId (completionStatus run) now
      else closed
    return (some (← finished.requirePlan planId, ← finished.requireRun runId), finished)
  else return (none, s)

/-! ## Work items -/

/-- The columns of a work item that a repeated creation has to agree with. -/
structure WorkItemIdentity where
  workId : Uuid
  workKey : String
  runId : Uuid
  trialId : Uuid
  kind : String
  priority : ℤ
  planId : Uuid
  ordinal : ℕ
  executionFamily : String
  backend : String
  providerRoute : String
  modelRoute : String
  resourceClass : String
  availableAt : Time
  retryPolicy : RetryPolicy
  deriving DecidableEq

/-- These columns of a stored work item. -/
def WorkItemIdentity.ofRecord (w : WorkItemRecord) : WorkItemIdentity :=
  { workId := w.workId, workKey := w.workKey, runId := w.runId, trialId := w.trialId
    kind := w.kind, priority := w.priority, planId := w.planId, ordinal := w.ordinal
    executionFamily := w.executionFamily, backend := w.backend
    providerRoute := w.providerRoute, modelRoute := w.modelRoute
    resourceClass := w.resourceClass, availableAt := w.availableAt
    retryPolicy := w.retryPolicy }

/-- The row of a new work item. -/
def WorkItemIdentity.newRecord (item : WorkItemIdentity) (now : Time) : WorkItemRecord :=
  { workId := item.workId, workKey := item.workKey, runId := item.runId
    trialId := item.trialId, kind := item.kind, state := .queued, priority := item.priority
    createdAt := now, updatedAt := now, planId := item.planId, ordinal := item.ordinal
    executionFamily := item.executionFamily, backend := item.backend
    providerRoute := item.providerRoute, modelRoute := item.modelRoute
    resourceClass := item.resourceClass, availableAt := item.availableAt
    retryPolicy := item.retryPolicy }

/-- The checks `create_work_item` makes before its transaction. -/
def checkWorkItemIdentity (item : WorkItemIdentity) (now : Time) : Except StoreError Unit := do
  let _ ← requiredText item.kind "kind"
  if item.ordinal = 0 then .error (.valueError "ordinal must be greater than zero")
  else
    let _ ← requiredText item.executionFamily "execution_family"
    if item.availableAt < now then
      .error (.valueError "work item available_at must not precede created_at")
    else return ()

def createWorkItem (item : WorkItemIdentity) (now : Time) :
    Except StoreError (Committed WorkItemRecord) := do
  let _ ← checkWorkItemIdentity item now
  let _ ← s.requireRun item.runId
  let trial ← s.requirePlannedTrial item.trialId
  let plan ← s.requirePlan item.planId
  if plan.runId ≠ item.runId ∨ trial.planId ≠ item.planId ∨ trial.runId ≠ item.runId then
    .error (.conflict "work item trial belongs to a different run")
  else if trial.ordinal ≠ item.ordinal then
    .error (.conflict "work item ordinal does not match planned trial")
  else match s.workItem? item.workId with
    | some existing =>
      if WorkItemIdentity.ofRecord existing ≠ item then
        .error (.conflict s!"work item identity already has different content: {item.workId}")
      else return (existing, s)
    | none =>
      if s.workItems.any fun w => w.trialId = item.trialId then
        .error (.conflict s!"trial already belongs to another work item: {item.trialId}")
      else if s.workItems.any fun w => w.runId = item.runId ∧ w.workKey = item.workKey then
        .error (.conflict s!"work key already belongs to another work item: {item.workKey}")
      else
        let row := item.newRecord now
        return (row, { s with workItems := s.workItems ++ [row] })

/-- The columns `update_work_item` writes. -/
def WorkItemRecord.withState (state : WorkItemState) (availableAt : Option Time) (now : Time)
    (row : WorkItemRecord) : WorkItemRecord :=
  { row with state := state, updatedAt := now, availableAt := availableAt.getD row.availableAt }

def updateWorkItem (workId : Uuid) (state : WorkItemState) (availableAt : Option Time)
    (now : Time) : Except StoreError (Committed WorkItemRecord) := do
  let row ← s.requireWorkItem workId
  if ∃ t ∈ availableAt, t < row.createdAt then
    .error (.valueError "work item available_at must not precede created_at")
  else
    return (WorkItemRecord.withState state availableAt now row,
      s.setWorkItems (fun w => w.workId = workId)
        (WorkItemRecord.withState state availableAt now))

/-- The states `schedule_retry` returns to the queue. -/
def retryableState : WorkItemState → Bool
  | .failed | .unknown | .cancelRequested => true
  | _ => false

def scheduleRetry (workId : Uuid) (availableAt now : Time) :
    Except StoreError (Committed WorkItemRecord) :=
  if availableAt < now then .error (.valueError "retry available_at must not precede now")
  else do
    let item ← s.requireWorkItem workId
    let run ← s.requireRun item.runId
    if run.cancellationRequestedAt.isSome then
      .error (.conflict "cannot retry work after cancellation was requested")
    else
      let queued :=
        (s.setWorkItems (fun w => w.workId = workId ∧ retryableState w.state = true) fun w =>
          { w with state := .queued, availableAt := availableAt, updatedAt := now }
          ).setPlannedTrials
            (fun t => t.trialId = item.trialId ∧ (t.state = .failed ∨ t.state = .unknown))
            fun t => { t with state := .queued, updatedAt := now }
      return (← queued.requireWorkItem workId, queued)

/-! ## Attempts -/

/-- The attempt and its trial, checked to belong to the work item. -/
def checkAttemptTrial (workId trialId : Uuid) : Except StoreError WorkItemRecord := do
  let item ← s.requireWorkItem workId
  let trial ← s.requirePlannedTrial trialId
  if item.trialId ≠ trialId ∨ trial.runId ≠ item.runId then
    .error (.conflict "attempt work item and trial do not match")
  else return item

/-- The insertion of an attempt row, subject to the table's unique constraints. -/
def insertAttempt (row : AttemptRecord) : Except StoreError OperationalStore :=
  if (s.attempt? row.attemptId).isSome then
    .error (.operational ("operational database operation failed: " ++
      "UNIQUE constraint failed: operational_attempts.attempt_id"))
  else if s.attempts.any fun a => a.workId = row.workId ∧ a.attemptNumber = row.attemptNumber then
    .error (.operational ("operational database operation failed: UNIQUE constraint failed: " ++
      "operational_attempts.work_id, operational_attempts.attempt_number"))
  else if s.attempts.any fun a => a.workId = row.workId ∧
      a.candidateIndex = row.candidateIndex ∧ a.retryNumber = row.retryNumber then
    .error (.operational ("operational database operation failed: UNIQUE constraint failed: " ++
      "operational_attempts.work_id, operational_attempts.candidate_index, " ++
      "operational_attempts.retry_number"))
  else .ok { s with attempts := s.attempts ++ [row] }

/-- The row of a new attempt. -/
def newAttempt (attemptId workId runId trialId : Uuid) (attemptNumber candidateIndex
    retryNumber : ℕ) (leaseId : Option Uuid) (state : AttemptState) (now : Time) :
    AttemptRecord :=
  { attemptId := attemptId, workId := workId, runId := runId, trialId := trialId
    attemptNumber := attemptNumber, candidateIndex := candidateIndex
    retryNumber := retryNumber, leaseId := leaseId, state := state, createdAt := now
    startedAt := none, finishedAt := none, updatedAt := now, failure := none
    reconciliationState := .notRequired, cancellationStatus := .notRequested }

/-- The lease an attempt may be bound to. -/
def checkAttemptLease (workId : Uuid) (leaseId : Option Uuid) (now : Time) :
    Except StoreError Unit :=
  match leaseId with
  | none => .ok ()
  | some id => do
    let lease ← s.requireLease id
    if lease.workId ≠ workId then
      .error (.conflict "attempt lease belongs to a different work item")
    else if lease.state ≠ .active then .error (.conflict "attempt lease is not active")
    else if lease.expiresAt ≤ now then .error (.conflict "attempt lease has expired")
    else return ()

def createAttempt (attemptId workId trialId : Uuid) (attemptNumber candidateIndex
    retryNumber : ℕ) (leaseId : Option Uuid) (state : AttemptState) (now : Time) :
    Except StoreError (Committed AttemptRecord) :=
  if attemptNumber = 0 then .error (.valueError "attempt_number must be greater than zero")
  else if candidateIndex = 0 then
    .error (.valueError "candidate_index must be greater than zero")
  else do
    let item ← s.checkAttemptTrial workId trialId
    let _ ← s.checkAttemptLease workId leaseId now
    match s.attempt? attemptId with
    | some existing =>
      if existing.workId ≠ workId ∨ existing.trialId ≠ trialId ∨
          existing.attemptNumber ≠ attemptNumber ∨ existing.candidateIndex ≠ candidateIndex ∨
          existing.retryNumber ≠ retryNumber ∨ existing.leaseId ≠ leaseId then
        .error (.conflict s!"attempt identity already has different content: {attemptId}")
      else return (existing, s)
    | none =>
      if s.attempts.any fun a => a.workId = workId ∧ a.attemptNumber = attemptNumber then
        .error (.conflict ("attempt number already belongs to another attempt: " ++
          s!"{workId} attempt {attemptNumber}"))
      else
        let row := newAttempt attemptId workId item.runId trialId attemptNumber candidateIndex
          retryNumber leaseId state now
        return (row, ← s.insertAttempt row)

/-- `COALESCE(MAX(attempt_number), 0) + 1` over the attempts of a work item. -/
def nextAttemptNumber (workId : Uuid) : ℕ :=
  ((s.attempts.filter fun a => a.workId = workId).map AttemptRecord.attemptNumber).foldr max 0 + 1

def createAttemptForLease (workId trialId leaseId : Uuid) (candidateIndex retryNumber : ℕ)
    (now : Time) : Except StoreError (Committed AttemptRecord) :=
  if candidateIndex = 0 then .error (.valueError "candidate_index must be greater than zero")
  else do
    let item ← s.checkAttemptTrial workId trialId
    let lease ← s.requireLease leaseId
    if lease.workId ≠ workId then
      .error (.conflict "attempt lease belongs to a different work item")
    else if lease.state ≠ .active ∨ lease.expiresAt ≤ now then
      .error (.conflict "attempt lease is not active")
    else
      let row := newAttempt (freshId (s.attempts.map AttemptRecord.attemptId)) workId item.runId
        trialId (s.nextAttemptNumber workId) candidateIndex retryNumber (some leaseId) .created
        now
      return (row, ← s.insertAttempt row)

/-- The columns `transition_attempt` writes. -/
def AttemptRecord.withState (state : AttemptState) (failure : Option FailureClassification)
    (reconciliationState : Option ReconciliationState)
    (cancellationStatus : Option CancellationStatus) (now : Time) (row : AttemptRecord) :
    AttemptRecord :=
  { row with
    state := state
    startedAt := if state = .running then some now else row.startedAt
    finishedAt :=
      if state = .succeeded ∨ state = .failed ∨ state = .cancelled ∨ state = .unknown then
        some now
      else row.finishedAt
    updatedAt := now
    failure :=
      if state = .succeeded ∨ state = .cancelled then none else failure <|> row.failure
    reconciliationState := reconciliationState.getD row.reconciliationState
    cancellationStatus := cancellationStatus.getD row.cancellationStatus }

def transitionAttempt (attemptId : Uuid) (state : AttemptState)
    (failure : Option FailureClassification) (reconciliationState : Option ReconciliationState)
    (cancellationStatus : Option CancellationStatus) (now : Time) :
    Except StoreError (Committed AttemptRecord) := do
  let row ← s.requireAttempt attemptId
  return (AttemptRecord.withState state failure reconciliationState cancellationStatus now row,
    s.setAttempts (fun a => a.attemptId = attemptId)
      (AttemptRecord.withState state failure reconciliationState cancellationStatus now))

/-! ## Backend submissions -/

def recordBackendSubmission (submissionId attemptId : Uuid) (backend : String)
    (externalId externalWorkId : Option String) (state : BackendSubmissionState) (now : Time) :
    Except StoreError (Committed BackendSubmissionRecord) := do
  let _ ← requiredText backend "backend"
  let _ ← externalId.mapM fun id => requiredText id "external_id"
  let _ ← externalWorkId.mapM fun id => requiredText id "external_work_id"
  let _ ← s.requireAttempt attemptId
  match s.submission? submissionId with
  | some existing =>
    if existing.attemptId ≠ attemptId ∨ existing.backend ≠ backend ∨
        existing.externalId ≠ externalId ∨ existing.externalWorkId ≠ externalWorkId then
      .error (.conflict s!"submission identity already has different content: {submissionId}")
    else return (existing, s)
  | none =>
    if s.submissions.any fun b => b.attemptId = attemptId ∧ b.backend = backend then
      .error (.conflict ("backend already has another submission for attempt: " ++
        s!"{attemptId} backend {backend}"))
    else
      let row : BackendSubmissionRecord :=
        { submissionId := submissionId, attemptId := attemptId, backend := backend
          externalId := externalId, externalWorkId := externalWorkId, state := state
          submittedAt := now, updatedAt := now, cancellationStatus := .notRequested
          reconciliationState := .notRequired }
      return (row, { s with submissions := s.submissions ++ [row] })

/-- The columns `transition_backend_submission` writes. -/
def BackendSubmissionRecord.withState (state : BackendSubmissionState)
    (cancellationStatus : Option CancellationStatus)
    (reconciliationState : Option ReconciliationState) (now : Time)
    (row : BackendSubmissionRecord) : BackendSubmissionRecord :=
  { row with
    state := state
    updatedAt := now
    cancellationStatus := cancellationStatus.getD row.cancellationStatus
    reconciliationState := reconciliationState.getD row.reconciliationState }

def transitionBackendSubmission (submissionId : Uuid) (state : BackendSubmissionState)
    (cancellationStatus : Option CancellationStatus)
    (reconciliationState : Option ReconciliationState) (now : Time) :
    Except StoreError (Committed BackendSubmissionRecord) := do
  let row ← s.requireSubmission submissionId
  return (BackendSubmissionRecord.withState state cancellationStatus reconciliationState now row,
    s.setSubmissions (fun b => b.submissionId = submissionId)
      (BackendSubmissionRecord.withState state cancellationStatus reconciliationState now))

def bindBackendSubmissionExternalIds (submissionId : Uuid) (externalId : String)
    (externalWorkId : Option String) (now : Time) :
    Except StoreError (Committed BackendSubmissionRecord) := do
  let _ ← requiredText externalId "external_id"
  let _ ← externalWorkId.mapM fun id => requiredText id "external_work_id"
  let row ← s.requireSubmission submissionId
  if row.externalId.isSome ∧ row.externalId ≠ some externalId then
    .error (.conflict s!"submission already has a different external ID: {submissionId}")
  else if row.externalWorkId.isSome ∧ row.externalWorkId ≠ externalWorkId then
    .error (.conflict s!"submission already has a different external work ID: {submissionId}")
  else if s.submissions.any fun b =>
      b.externalId = some externalId ∧ b.submissionId ≠ submissionId then
    .error (.conflict s!"external ID already belongs to another submission: {externalId}")
  else
    let bound (b : BackendSubmissionRecord) : BackendSubmissionRecord :=
      { b with externalId := some externalId, externalWorkId := externalWorkId, updatedAt := now }
    return (bound row, s.setSubmissions (fun b => b.submissionId = submissionId) bound)

/-! ## Ordered reads -/

def listWorkItems (runId : Uuid) : List WorkItemRecord :=
  Table.orderBy (fun w => [-w.priority, w.createdAt, w.ordinal, w.workId])
    (s.workItems.filter fun w => w.runId = runId)

def listAttemptsForWork (workId : Uuid) : List AttemptRecord :=
  Table.orderBy (fun a => [a.attemptNumber, a.attemptId])
    (s.attempts.filter fun a => a.workId = workId)

def listBackendSubmissions (attemptId : Uuid) : List BackendSubmissionRecord :=
  Table.orderBy (fun b => [b.submittedAt, b.submissionId])
    (s.submissions.filter fun b => b.attemptId = attemptId)

def listLeasesForRun (runId : Uuid) : List LeaseRecord :=
  Table.orderBy (fun l => [l.acquiredAt, l.leaseId])
    (s.leases.filter fun l => s.workItems.any fun w => w.workId = l.workId ∧ w.runId = runId)

/-- The earliest time after `now` at which queued work becomes available. -/
def nextAvailableAt (now : Time) : Option Time :=
  ((s.workItems.filter fun w => w.state = .queued ∧ now < w.availableAt).map
    WorkItemRecord.availableAt).min?

/-! ## What a committed transaction does

For each write method, the database it commits: the old one, the old one with one new row, or
the old one after its `UPDATE` statements. -/

section Committed

variable {s} {s' : OperationalStore} {now : Time}

variable {runId : Uuid} {r : RunRecord}

lemma createRun_ok {specRef : String} {status : RunStatus}
    (h : s.createRun runId specRef status now = .ok (r, s')) :
    s' = s ∨ s.run? runId = none ∧ r.runId = runId ∧ r.status = status ∧
      s' = { s with runs := s.runs ++ [r] } := by
  unfold createRun at h
  split at h
  · simp only [ite_error_eq_ok, Except.ok.injEq, Prod.mk.injEq] at h
    exact .inl h.2.2.symm
  · rename_i hnone
    obtain ⟨rfl, rfl⟩ := h
    exact .inr ⟨hnone, rfl, rfl, rfl⟩

lemma updateRun_ok {status : RunStatus} (h : s.updateRun runId status now = .ok (r, s')) :
    s' = s.setRuns (fun r => r.runId = runId) (RunRecord.withStatus status now) := by
  simp only [updateRun, bind_eq_ok, pure_eq_ok, Prod.mk.injEq] at h
  obtain ⟨_, _, _, rfl⟩ := h
  rfl

/-- What `request_cancellation` asks to stop: the run, or one trial of it. -/
lemma applyCancellation_ok {trialId : Option Uuid}
    (h : s.applyCancellation runId trialId now = .ok s') :
    (trialId = none ∧ s' = (s.markCancellationRequested runId now).cancelWork
      (fun w => w.runId = runId) (fun t => t.runId = runId) now) ∨
    ∃ trial row, trialId = some trial ∧ s.plannedTrial? trial = some row ∧ row.runId = runId ∧
      s' = s.cancelWork (fun w => w.trialId = trial) (fun t => t.trialId = trial) now := by
  unfold applyCancellation at h
  split at h
  · simp only [Except.ok.injEq] at h
    exact .inl ⟨rfl, h.symm⟩
  · rename_i trial
    simp only [bind_eq_ok, requirePlannedTrial, requireRow_eq_ok, ite_error_eq_ok, pure_eq_ok,
      not_not] at h
    obtain ⟨row, hrow, hrun, rfl⟩ := h
    exact .inr ⟨trial, row, rfl, hrow, hrun, rfl⟩

lemma requestCancellation_ok {trialId : Option Uuid}
    (h : s.requestCancellation runId trialId now = .ok (r, s')) :
    ∃ run, s.run? runId = some run ∧
      ((run.status = .completed ∨ run.status = .failed ∨ run.status = .cancelled) ∧ s' = s ∨
        ¬ (run.status = .completed ∨ run.status = .failed ∨ run.status = .cancelled) ∧
          ∃ cancelled, s.applyCancellation runId trialId now = .ok cancelled ∧
            s' = cancelled.closeAfterCancellation runId now) := by
  simp only [requestCancellation, bind_eq_ok, requireRun, requireRow_eq_ok] at h
  obtain ⟨run, hrun, h⟩ := h
  refine ⟨run, hrun, ?_⟩
  split at h
  · rename_i hfinal
    simp only [pure_eq_ok, Prod.mk.injEq] at h
    exact .inl ⟨hfinal, h.2.symm⟩
  · rename_i hopen
    simp only [bind_eq_ok, requireRow_eq_ok, pure_eq_ok, Prod.mk.injEq] at h
    obtain ⟨cancelled, hc, _, _, _, rfl⟩ := h
    exact .inr ⟨hopen, cancelled, hc, rfl⟩

variable {planId : Uuid}

lemma putPlan_ok {planRef : String} {state : PlanState} {p : PlanRecord}
    (h : s.putPlan planId runId planRef state now = .ok (p, s')) :
    s' = s ∨ s.plan? planId = none ∧ (s.run? runId).isSome ∧ p.planId = planId ∧
      p.runId = runId ∧ p.state = state ∧ s' = { s with plans := s.plans ++ [p] } := by
  simp only [putPlan, bind_eq_ok, requireRun, requireRow_eq_ok] at h
  obtain ⟨run, hrun, h⟩ := h
  split at h
  · simp only [ite_error_eq_ok, pure_eq_ok, Prod.mk.injEq] at h
    exact .inl h.2.2.symm
  · rename_i hnone
    obtain ⟨rfl, rfl⟩ := h
    exact .inr ⟨hnone, by rw [hrun]; rfl, rfl, rfl, rfl, rfl⟩

lemma updatePlan_ok {state : PlanState} {p : PlanRecord}
    (h : s.updatePlan planId state now = .ok (p, s')) :
    s' = s.setPlans (fun p => p.planId = planId) fun p =>
      { p with state := state, updatedAt := now } := by
  simp only [updatePlan, bind_eq_ok, pure_eq_ok, Prod.mk.injEq] at h
  obtain ⟨_, _, _, rfl⟩ := h
  rfl

variable {trialId : Uuid}

lemma putPlannedTrial_ok {ordinal : ℕ} {state : TrialState} {t : PlannedTrialRecord}
    (h : s.putPlannedTrial trialId planId runId ordinal state now = .ok (t, s')) :
    s' = s ∨ s.plannedTrial? trialId = none ∧ (s.run? runId).isSome ∧
      (∃ plan, s.plan? planId = some plan ∧ plan.runId = runId) ∧ t.trialId = trialId ∧
      t.planId = planId ∧ t.runId = runId ∧
      s' = { s with plannedTrials := s.plannedTrials ++ [t] } := by
  simp only [putPlannedTrial, ite_error_eq_ok, bind_eq_ok, requirePlan, requireRun,
    requireRow_eq_ok, not_not] at h
  obtain ⟨-, plan, hplan, run, hrun, heq, h⟩ := h
  split at h
  · simp only [ite_error_eq_ok, pure_eq_ok, Prod.mk.injEq] at h
    exact .inl h.2.2.symm
  · rename_i hnone
    simp only [ite_error_eq_ok, pure_eq_ok, Prod.mk.injEq] at h
    obtain ⟨-, rfl, rfl⟩ := h
    exact .inr ⟨hnone, by rw [hrun]; rfl, ⟨plan, hplan, heq⟩, rfl, rfl, rfl, rfl⟩

lemma updatePlannedTrial_ok {state : TrialState} {t : PlannedTrialRecord}
    (h : s.updatePlannedTrial trialId state now = .ok (t, s')) :
    s' = s.setPlannedTrials (fun t => t.trialId = trialId) fun t =>
      { t with state := state, updatedAt := now } := by
  simp only [updatePlannedTrial, bind_eq_ok, pure_eq_ok, Prod.mk.injEq] at h
  obtain ⟨_, _, _, rfl⟩ := h
  rfl

/-- The plan is closed, and the run finished if it is complete too. -/
def closePlan (s : OperationalStore) (planId runId : Uuid) (run : RunRecord) (now : Time) :
    OperationalStore :=
  let closed := s.setPlans (fun p => p.planId = planId) fun p =>
    { p with state := .closed, updatedAt := now }
  if closed.scopeComplete (fun t => t.runId = runId) (fun w => w.runId = runId) then
    closed.finishRun runId (completionStatus run) now
  else closed

lemma completePlanIfTerminal_ok {a : Option (PlanRecord × RunRecord)}
    (h : s.completePlanIfTerminal planId runId now = .ok (a, s')) :
    s' = s ∨ ∃ run, s.run? runId = some run ∧
      s.scopeComplete (fun t => t.planId = planId) (fun w => w.planId = planId) = true ∧
      s' = s.closePlan planId runId run now := by
  simp only [completePlanIfTerminal, bind_eq_ok, requirePlan, requireRun, requireRow_eq_ok,
    ite_error_eq_ok] at h
  obtain ⟨plan, hplan, -, h⟩ := h
  split at h
  · rename_i hcomplete
    simp only [bind_eq_ok, requireRow_eq_ok, pure_eq_ok, Prod.mk.injEq] at h
    obtain ⟨run, hrun, _, _, _, _, _, rfl⟩ := h
    exact .inr ⟨run, hrun, hcomplete, rfl⟩
  · simp only [pure_eq_ok, Prod.mk.injEq] at h
    exact .inl h.2.symm

variable {w : WorkItemRecord}

lemma createWorkItem_ok {item : WorkItemIdentity} (h : s.createWorkItem item now = .ok (w, s')) :
    s' = s ∨ s.workItem? item.workId = none ∧ (s.run? item.runId).isSome ∧
      (∃ trial, s.plannedTrial? item.trialId = some trial ∧ trial.planId = item.planId ∧
        trial.runId = item.runId) ∧
      (∃ plan, s.plan? item.planId = some plan ∧ plan.runId = item.runId) ∧
      (∀ w ∈ s.workItems, w.trialId ≠ item.trialId) ∧
      w = item.newRecord now ∧ s' = { s with workItems := s.workItems ++ [w] } := by
  simp only [createWorkItem, bind_eq_ok, requirePlan, requireRun, requirePlannedTrial,
    requireRow_eq_ok, ite_error_eq_ok, not_or, not_not] at h
  obtain ⟨_, -, run, hrun, trial, htrial, plan, hplan, ⟨hp, htp, htr⟩, -, h⟩ := h
  split at h
  · simp only [ite_error_eq_ok, pure_eq_ok, Prod.mk.injEq] at h
    exact .inl h.2.2.symm
  · rename_i hnone
    simp only [ite_error_eq_ok, pure_eq_ok, Prod.mk.injEq, List.any_eq_true, decide_eq_true_eq,
      not_exists, not_and] at h
    obtain ⟨hfree, -, rfl, rfl⟩ := h
    exact .inr ⟨hnone, by rw [hrun]; rfl, ⟨trial, htrial, htp, htr⟩, ⟨plan, hplan, hp⟩, hfree,
      rfl, rfl⟩

variable {workId : Uuid}

lemma updateWorkItem_ok {state : WorkItemState} {availableAt : Option Time}
    (h : s.updateWorkItem workId state availableAt now = .ok (w, s')) :
    (∃ row, s.workItem? workId = some row ∧ w = WorkItemRecord.withState state availableAt now row) ∧
    s' = s.setWorkItems (fun w => w.workId = workId)
      (WorkItemRecord.withState state availableAt now) := by
  simp only [updateWorkItem, bind_eq_ok, requireWorkItem, requireRow_eq_ok, ite_error_eq_ok,
    pure_eq_ok, Prod.mk.injEq] at h
  obtain ⟨row, hrow, -, rfl, rfl⟩ := h
  exact ⟨⟨row, hrow, rfl⟩, rfl⟩

/-- The two updates of `schedule_retry`. -/
def requeue (s : OperationalStore) (workId trialId : Uuid) (availableAt now : Time) :
    OperationalStore :=
  (s.setWorkItems (fun w => w.workId = workId ∧ retryableState w.state = true) fun w =>
    { w with state := .queued, availableAt := availableAt, updatedAt := now }).setPlannedTrials
      (fun t => t.trialId = trialId ∧ (t.state = .failed ∨ t.state = .unknown))
      fun t => { t with state := .queued, updatedAt := now }

lemma scheduleRetry_ok {availableAt : Time}
    (h : s.scheduleRetry workId availableAt now = .ok (w, s')) :
    ∃ item run, s.workItem? workId = some item ∧ s.run? item.runId = some run ∧
      run.cancellationRequestedAt = none ∧
      s' = s.requeue workId item.trialId availableAt now := by
  simp only [scheduleRetry, ite_error_eq_ok, bind_eq_ok, requireWorkItem, requireRun,
    requireRow_eq_ok, pure_eq_ok, Prod.mk.injEq] at h
  obtain ⟨-, item, hitem, run, hrun, hopen, _, _, _, rfl⟩ := h
  exact ⟨item, run, hitem, hrun, by simpa using hopen, rfl⟩

lemma insertAttempt_ok {row : AttemptRecord} (h : s.insertAttempt row = .ok s') :
    s.attempt? row.attemptId = none ∧
      (∀ a ∈ s.attempts, a.workId = row.workId → a.candidateIndex = row.candidateIndex →
        a.retryNumber ≠ row.retryNumber) ∧
      s' = { s with attempts := s.attempts ++ [row] } := by
  simp only [insertAttempt, ite_error_eq_ok, Except.ok.injEq, Bool.not_eq_true,
    Option.isSome_eq_false_iff, Option.isNone_iff_eq_none, List.any_eq_false,
    decide_eq_true_eq, not_and] at h
  exact ⟨h.1, h.2.2.1, h.2.2.2.symm⟩

lemma checkAttemptLease_ok {leaseId : Option Uuid} {u : Unit}
    (h : s.checkAttemptLease workId leaseId now = .ok u) :
    ∀ id ∈ leaseId, ∃ lease, s.lease? id = some lease ∧ lease.workId = workId ∧
      lease.state = .active := by
  rintro id rfl
  simp only [checkAttemptLease, bind_eq_ok, requireLease, requireRow_eq_ok, ite_error_eq_ok,
    not_not] at h
  obtain ⟨lease, hlease, hwork, hactive, -⟩ := h
  exact ⟨lease, hlease, hwork, hactive⟩

variable {attemptId : Uuid} {a : AttemptRecord}

lemma createAttempt_ok {attemptNumber candidateIndex retryNumber : ℕ} {leaseId : Option Uuid}
    {state : AttemptState}
    (h : s.createAttempt attemptId workId trialId attemptNumber candidateIndex
      retryNumber leaseId state now = .ok (a, s')) :
    s' = s ∨ ∃ item, s.workItem? workId = some item ∧
      (∀ id ∈ leaseId, ∃ lease, s.lease? id = some lease ∧ lease.workId = workId ∧
        lease.state = .active) ∧
      a = newAttempt attemptId workId item.runId trialId attemptNumber candidateIndex retryNumber
        leaseId state now ∧ s.insertAttempt a = .ok s' := by
  simp only [createAttempt, ite_error_eq_ok, bind_eq_ok, checkAttemptTrial, requireWorkItem,
    requirePlannedTrial, requireRow_eq_ok, pure_eq_ok] at h
  obtain ⟨-, -, item, ⟨row, hrow, _, _, -, rfl⟩, _, hlease, h⟩ := h
  split at h
  · simp only [ite_error_eq_ok, pure_eq_ok, Prod.mk.injEq] at h
    exact .inl h.2.2.symm
  · simp only [ite_error_eq_ok, bind_eq_ok, pure_eq_ok, Prod.mk.injEq] at h
    obtain ⟨-, _, hins, rfl, rfl⟩ := h
    exact .inr ⟨row, hrow, checkAttemptLease_ok hlease, rfl, hins⟩

lemma createAttemptForLease_ok {leaseId : Uuid} {candidateIndex retryNumber : ℕ}
    (h : s.createAttemptForLease workId trialId leaseId candidateIndex retryNumber now =
      .ok (a, s')) :
    ∃ item lease, s.workItem? workId = some item ∧ s.lease? leaseId = some lease ∧
      lease.workId = workId ∧ lease.state = .active ∧
      a = newAttempt (freshId (s.attempts.map AttemptRecord.attemptId)) workId item.runId
        trialId (s.nextAttemptNumber workId) candidateIndex retryNumber (some leaseId) .created
        now ∧
      s.insertAttempt a = .ok s' := by
  simp only [createAttemptForLease, ite_error_eq_ok, bind_eq_ok, checkAttemptTrial,
    requireWorkItem, requirePlannedTrial, requireLease, requireRow_eq_ok, pure_eq_ok,
    Prod.mk.injEq, not_or, not_not] at h
  obtain ⟨-, item, ⟨row, hrow, _, _, -, rfl⟩, lease, hlease, hwork, ⟨hactive, -⟩, _, hins,
    rfl, rfl⟩ := h
  exact ⟨row, lease, hrow, hlease, hwork, hactive, rfl, hins⟩

variable {reconciliationState : Option ReconciliationState} {cancellationStatus : Option
  CancellationStatus}

lemma transitionAttempt_ok {state : AttemptState} {failure : Option FailureClassification}
    (h : s.transitionAttempt attemptId state failure reconciliationState cancellationStatus now =
      .ok (a, s')) :
    (∃ row, s.attempt? attemptId = some row ∧ a = AttemptRecord.withState state failure
      reconciliationState cancellationStatus now row) ∧
    s' = s.setAttempts (fun a => a.attemptId = attemptId)
      (AttemptRecord.withState state failure reconciliationState cancellationStatus now) := by
  simp only [transitionAttempt, bind_eq_ok, requireAttempt, requireRow_eq_ok, pure_eq_ok,
    Prod.mk.injEq] at h
  obtain ⟨row, hrow, rfl, rfl⟩ := h
  exact ⟨⟨row, hrow, rfl⟩, rfl⟩

variable {submissionId : Uuid} {b : BackendSubmissionRecord}

variable {externalWorkId : Option String} {state : BackendSubmissionState}

lemma recordBackendSubmission_ok {backend : String} {externalId : Option String}
    (h : s.recordBackendSubmission submissionId attemptId backend externalId externalWorkId state
      now = .ok (b, s')) :
    s' = s ∨ s.submission? submissionId = none ∧ (s.attempt? attemptId).isSome ∧
      b.submissionId = submissionId ∧ b.attemptId = attemptId ∧
      s' = { s with submissions := s.submissions ++ [b] } := by
  simp only [recordBackendSubmission, bind_eq_ok, requireAttempt, requireRow_eq_ok] at h
  obtain ⟨_, -, _, -, _, -, attempt, hattempt, h⟩ := h
  split at h
  · simp only [ite_error_eq_ok, pure_eq_ok, Prod.mk.injEq] at h
    exact .inl h.2.2.symm
  · rename_i hnone
    simp only [ite_error_eq_ok, pure_eq_ok, Prod.mk.injEq] at h
    obtain ⟨-, rfl, rfl⟩ := h
    exact .inr ⟨hnone, by rw [hattempt]; rfl, rfl, rfl, rfl⟩

lemma transitionBackendSubmission_ok
    (h : s.transitionBackendSubmission submissionId state cancellationStatus reconciliationState
      now = .ok (b, s')) :
    s' = s.setSubmissions (fun b => b.submissionId = submissionId)
      (BackendSubmissionRecord.withState state cancellationStatus reconciliationState now) := by
  simp only [transitionBackendSubmission, bind_eq_ok, pure_eq_ok, Prod.mk.injEq] at h
  obtain ⟨_, _, _, rfl⟩ := h
  rfl

lemma bindBackendSubmissionExternalIds_ok {externalId : String}
    (h : s.bindBackendSubmissionExternalIds submissionId externalId externalWorkId now =
      .ok (b, s')) :
    s' = s.setSubmissions (fun b => b.submissionId = submissionId) fun b =>
      { b with externalId := some externalId, externalWorkId := externalWorkId
               updatedAt := now } := by
  simp only [bindBackendSubmissionExternalIds, bind_eq_ok, ite_error_eq_ok, pure_eq_ok,
    Prod.mk.injEq] at h
  obtain ⟨_, -, _, -, _, -, -, -, -, -, rfl⟩ := h
  rfl

end Committed

end OperationalStore

end AecBench.Execution
