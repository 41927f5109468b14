import AecBench.Execution.Operational.Operations

/-!
# The local scheduler

The methods of the scheduler as programs over the operations of the store. A call carries the
part of the method it is made from. What the scheduler learns from outside, the workers'
results and the backends' answers, is an argument of the program: a run of a program for every
value of these arguments is a run for every behaviour of workers and backends.

## Main definitions

* `LocalScheduler.dispatchOnce` — one dispatch pass; `LocalScheduler.handleCompletion`, what it
  does when a worker has finished; `LocalScheduler.scheduleRetry` — `_schedule_retry`.
* `LocalScheduler.reconcileUnknown`, `LocalScheduler.cancelActive` — reconciliation and
  cancellation.
* `SchedulerRunReport` — the report of a pass.

## Implementation notes

* A dispatch pass waits for its workers in rounds. A round says which futures have finished,
  with what result, in the order the set of futures is walked, in which order the others are
  renewed, and when. A pass whose rounds run out while workers are running gives no report.
* Sets of ids are walked in the order of first occurrence.
* The messages of pydantic's own validators are not modelled further than their first line.
-/

namespace AecBench.Execution

open Program

/-- The part of a scheduler method a call is made from. The completion of a worker names the
position of its future in the pass, its lease and its work item; `completionRead` is the read
it starts with. -/
inductive Site
  | leasing
  | starting
  | heartbeat
  | completionRead (index : ℕ) (leaseId workId : Uuid)
  | completion (index : ℕ) (leaseId workId : Uuid)
  | reconciling
  | cancelling
  deriving DecidableEq

/-- A program of the scheduler. -/
abbrev SchedulerProgram := Program Site StoreOp StoreError

/-- A checked value, or the error of the check. -/
def SchedulerProgram.ofExcept {α : Type} : Except StoreError α → SchedulerProgram α
  | .ok a => .done a
  | .error e => .fail e

/-- Results from one bounded scheduler pass. -/
structure SchedulerRunReport where
  leasedCount : ℕ
  succeededCount : ℕ
  failedCount : ℕ
  retriedCount : ℕ
  cancelledCount : ℕ
  unknownCount : ℕ
  idle : Bool
  nextAvailableAt : Option Time
  counts_le : succeededCount + failedCount ≤ leasedCount
  idle_iff : idle = true ↔ leasedCount = 0

/-- The counters of a pass while it runs. -/
structure Counts where
  succeeded : ℤ
  failed : ℤ
  retried : ℤ
  cancelled : ℤ
  unknown : ℤ

/-- Every counter is zero. -/
def Counts.zero : Counts := ⟨0, 0, 0, 0, 0⟩

/-- No counter is negative. -/
def Counts.Nonneg (counts : Counts) : Prop :=
  0 ≤ counts.succeeded ∧ 0 ≤ counts.failed ∧ 0 ≤ counts.retried ∧ 0 ≤ counts.cancelled ∧
    0 ≤ counts.unknown

instance (counts : Counts) : Decidable counts.Nonneg := by unfold Counts.Nonneg; infer_instance

/-- The report with the given counters, if it passes the model's validators. -/
def SchedulerRunReport.create (leasedCount : ℕ) (counts : Counts) (idle : Bool)
    (nextAvailableAt : Option Time) : Except StoreError SchedulerRunReport :=
  if counts.Nonneg then
    if hle : counts.succeeded.toNat + counts.failed.toNat ≤ leasedCount then
      if hidle : idle = true ↔ leasedCount = 0 then
        .ok
          { leasedCount := leasedCount
            succeededCount := counts.succeeded.toNat
            failedCount := counts.failed.toNat
            retriedCount := counts.retried.toNat
            cancelledCount := counts.cancelled.toNat
            unknownCount := counts.unknown.toNat
            idle := idle
            nextAvailableAt := nextAvailableAt
            counts_le := hle
            idle_iff := hidle }
      else .error (.valueError "scheduler idle flag must match leased count")
    else .error (.valueError "scheduler completion counts must not exceed leased count")
  else .error (.valueError "Input should be greater than or equal to 0")

/-! ## Failures -/

/-- `_infrastructure_failure`, for the one kind the scheduler reports. -/
def workerLostFailure : FailureClassification where
  failureClass := .infrastructure
  kind := .workerLostBeforeSubmission
  message := "worker failed before backend submission"
  class_eq := rfl
  message_nonblank := by decide

/-- `_unknown_failure`. -/
def unknownFailure (message : String) (h : isBlank message = false) : FailureClassification where
  failureClass := .unknown
  kind := .unknownExternalState
  message := message
  class_eq := rfl
  message_nonblank := h

def OutcomeState.toAttempt : OutcomeState → AttemptState
  | .succeeded => .succeeded
  | .failed => .failed
  | .unknown => .unknown

def OutcomeState.toTrial : OutcomeState → TrialState
  | .succeeded => .succeeded
  | .failed => .failed
  | .unknown => .unknown

def OutcomeState.toWorkItem : OutcomeState → WorkItemState
  | .succeeded => .succeeded
  | .failed => .failed
  | .unknown => .unknown

/-- A work item that a pass runs, with its attempt and its lease. -/
structure RunningItem where
  workItem : WorkItemRecord
  attempt : AttemptRecord
  lease : LeaseRecord

/-- What a pass has still to do: the futures that are pending, the leases that are lost, and
the counters. -/
structure Waiting where
  pending : List ℕ
  lost : List Uuid
  counts : Counts

/-- One return of `wait`: the futures that are done, with the results of their workers, and the
heartbeat that follows, with the order in which the pending futures are walked. -/
structure Round where
  done : List (ℕ × WorkerResult)
  order : List ℕ
  heartbeatNow : Time

/-- The pending futures in an order the environment has chosen: those it names first. -/
def arrange (order pending : List ℕ) : List ℕ :=
  (order.filter (· ∈ pending)).dedup ++ pending.filter (· ∉ order)

/-- The control interface of a backend, where it is present. -/
structure ExecutionBackendControl where
  reconcile : WorkItemRecord → AttemptRecord → BackendSubmissionRecord →
    Except String WorkerOutcome
  cancel : Option (WorkItemRecord → AttemptRecord → BackendSubmissionRecord →
    Except String BackendCancellationResult)

namespace LocalScheduler

/-- `max(retry numbers, default=-1) + 1`. -/
def nextRetryNumber (attempts : List AttemptRecord) : ℕ :=
  (attempts.map fun a => a.retryNumber + 1).foldr max 0

/-! ## Retries -/

/-- The next attempt would start later after the first one than the policy allows. -/
def elapsedExceeded (policy : RetryPolicy) (attempts : List AttemptRecord) (now : Time) :
    Except StoreError Bool :=
  match policy.maximumElapsedSeconds with
  | none => .ok false
  | some maximum =>
    match (attempts.map AttemptRecord.createdAt).min? with
    | none => .error (.valueError "min() iterable argument is empty")
    | some first => .ok ((maximum : ℤ) < now + policy.backoffSeconds - first)

/-- `_schedule_retry`. -/
def scheduleRetry (site : Site) (item : WorkItemRecord) (failure : FailureClassification)
    (now : Time) (afterUnknown : Bool) : SchedulerProgram Bool :=
  if afterUnknown = true ∧ item.retryPolicy.unknownStatePolicy = .neverRetry then return false
  else if failure.failureClass ≠ .infrastructure ∨
      failure.kind ∉ item.retryPolicy.retryableFailureKinds then return false
  else do
    let attempts ← perform site (.listAttemptsForWork item.workId)
    if item.retryPolicy.maximumAttempts ≤ nextRetryNumber attempts then return false
    else
      let exceeded ← SchedulerProgram.ofExcept (elapsedExceeded item.retryPolicy attempts now)
      if exceeded = true then return false
      else
        let _ ← perform site
          (.scheduleRetry item.workId (now + item.retryPolicy.backoffSeconds) (some now))
        return true

/-! ## Leasing and starting -/

/-- Lease work items one at a time, at most `n` of them, until none can be had. -/
def leaseBatch (policy : ExecutionPolicy) (owner : String) (now : Time) :
    ℕ → SchedulerProgram (List (WorkItemRecord × LeaseRecord))
  | 0 => return []
  | n + 1 => do
    match ← perform .leasing (.leaseNextWorkItem (policy.leaseRequest owner now)) with
    | none => return []
    | some selected =>
      let rest ← leaseBatch policy owner now n
      return selected :: rest

/-- The runs of the leased work items become running. -/
def updateRuns (now : Time) : List Uuid → SchedulerProgram Unit
  | [] => return ()
  | runId :: runIds => do
    let _ ← perform .starting (.updateRun runId .running (some now))
    updateRuns now runIds

/-- The plans of the leased work items become started. -/
def updatePlans (now : Time) : List Uuid → SchedulerProgram Unit
  | [] => return ()
  | planId :: planIds => do
    let _ ← perform .starting (.updatePlan planId .started (some now))
    updatePlans now planIds

/-- The next attempt of a leased work item is created and everything is marked running. -/
def startItem (now : Time) (workItem : WorkItemRecord) (lease : LeaseRecord) :
    SchedulerProgram RunningItem := do
  let priorAttempts ← perform .starting (.listAttemptsForWork workItem.workId)
  let attempt ← perform .starting (.createAttemptForLease workItem.workId workItem.trialId
    lease.leaseId 1 (nextRetryNumber priorAttempts) (some now))
  let workItem ← perform .starting (.updateWorkItem workItem.workId .running none (some now))
  let _ ← perform .starting (.updatePlannedTrial workItem.trialId .running (some now))
  let attempt ← perform .starting
    (.transitionAttempt attempt.attemptId .running none none none (some now))
  return { workItem := workItem, attempt := attempt, lease := lease }

/-- Start the leased work items in order. -/
def startItems (now : Time) :
    List (WorkItemRecord × LeaseRecord) → SchedulerProgram (List RunningItem)
  | [] => return []
  | (workItem, lease) :: leased => do
    let running ← startItem now workItem lease
    let rest ← startItems now leased
    return running :: rest

/-! ## Completions -/

/-- The attempt, its trial and its work item become unknown. -/
def markUnknown (site : Site) (running : RunningItem) (failure : FailureClassification) :
    SchedulerProgram Unit := do
  let _ ← perform site (.transitionAttempt running.attempt.attemptId .unknown (some failure)
    (some .pending) none none)
  let _ ← perform site (.updatePlannedTrial running.workItem.trialId .unknown none)
  let _ ← perform site (.updateWorkItem running.workItem.workId .unknown none none)
  return ()

/-- The failure recorded for a worker that raised: the one its attempt already has, or one that
says whether a backend submission exists. -/
def raisedFailure (attempt : AttemptRecord) (hasSubmission : Bool) : FailureClassification :=
  attempt.failure.getD
    (if hasSubmission then
      unknownFailure "worker failed after backend submission" (by decide)
    else workerLostFailure)

/-- The state of an attempt whose worker raised. -/
def raisedState (attempt : AttemptRecord) (hasSubmission : Bool) : OutcomeState :=
  if attempt.state = .failed then .failed else if hasSubmission then .unknown else .failed

/-- The worker raised. -/
def recordRaised (site : Site) (now : Time) (running : RunningItem) (counts : Counts) :
    SchedulerProgram Counts := do
  let currentAttempt ← perform site (.getAttempt running.attempt.attemptId)
  let submissions ← perform site (.listBackendSubmissions running.attempt.attemptId)
  let hasSubmission := !submissions.isEmpty
  let failure := raisedFailure currentAttempt hasSubmission
  let terminalState := raisedState currentAttempt hasSubmission
  let _ ← perform site (.transitionAttempt running.attempt.attemptId terminalState.toAttempt
    (some failure) (some (if hasSubmission then .pending else .notRequired)) none none)
  let _ ← perform site (.updatePlannedTrial running.workItem.trialId terminalState.toTrial none)
  let _ ← perform site
    (.updateWorkItem running.workItem.workId terminalState.toWorkItem none none)
  if terminalState = .unknown then return { counts with unknown := counts.unknown + 1 }
  else
    let retried ← scheduleRetry site running.workItem failure now false
    if retried = true then return { counts with retried := counts.retried + 1 }
    else return { counts with failed := counts.failed + 1 }

/-- The attempt takes the outcome if the outcome has its receipt and does not finalize another
attempt. -/
def recordAttempt (site : Site) (running : RunningItem) (outcome : WorkerOutcome) :
    SchedulerProgram Unit :=
  match receiptFor outcome.receipts running.attempt.attemptId with
  | none => return ()
  | some receipt =>
    if ∀ final ∈ outcome.finalization, final.attemptId = running.attempt.attemptId then do
      let _ ← perform site (.transitionAttempt running.attempt.attemptId
        outcome.terminalState.toAttempt receipt.failure (some receipt.reconciliationStatus)
        (some receipt.cancellationStatus) none)
      return ()
    else return ()

/-- A failed outcome is retried, or it is final. -/
def recordFailed (site : Site) (now : Time) (running : RunningItem) (outcome : WorkerOutcome)
    (counts : Counts) : SchedulerProgram Counts :=
  match outcome.finalization,
    (receiptFor outcome.receipts running.attempt.attemptId).bind AttemptReceipt.failure with
  | none, some failure => do
    let retried ← scheduleRetry site running.workItem failure now false
    if retried = true then return { counts with retried := counts.retried + 1 }
    else return { counts with failed := counts.failed + 1 }
  | _, _ => return { counts with failed := counts.failed + 1 }

/-- The worker returned an outcome. -/
def recordOutcome (site : Site) (now : Time) (running : RunningItem) (outcome : WorkerOutcome)
    (counts : Counts) : SchedulerProgram Counts := do
  recordAttempt site running outcome
  let _ ← perform site
    (.updatePlannedTrial running.workItem.trialId outcome.terminalState.toTrial none)
  let _ ← perform site
    (.updateWorkItem running.workItem.workId outcome.terminalState.toWorkItem none none)
  match outcome.terminalState with
  | .succeeded => return { counts with succeeded := counts.succeeded + 1 }
  | .failed => recordFailed site now running outcome counts
  | .unknown => return { counts with unknown := counts.unknown + 1 }

/-- The worker returned nothing. -/
def recordReturned (site : Site) (running : RunningItem) (counts : Counts) :
    SchedulerProgram Counts := do
  let _ ← perform site
    (.transitionAttempt running.attempt.attemptId .succeeded none none none none)
  let _ ← perform site (.updatePlannedTrial running.workItem.trialId .succeeded none)
  let _ ← perform site (.updateWorkItem running.workItem.workId .succeeded none none)
  return { counts with succeeded := counts.succeeded + 1 }

/-- The result of a worker whose lease is not known to be lost. -/
def recordResult (site : Site) (now : Time) (running : RunningItem) (result : WorkerResult)
    (counts : Counts) : SchedulerProgram Counts :=
  match result with
  | .raised => recordRaised site now running counts
  | .outcome outcome => recordOutcome site now running outcome counts
  | .returned => recordReturned site running counts

/-- The counters after the release of a lease has failed, by the state the work item has. -/
def Counts.withdraw (counts : Counts) (state : WorkItemState) : Counts :=
  { counts with
    succeeded := if state = .succeeded then counts.succeeded - 1 else counts.succeeded
    failed := if state = .failed then counts.failed - 1 else counts.failed
    retried := if state = .queued then counts.retried - 1 else counts.retried
    unknown := if state ≠ .unknown then counts.unknown + 1 else counts.unknown }

/-- Release the lease; when that fails, what was recorded is withdrawn and becomes unknown. -/
def releaseRecorded (site : Site) (owner : String) (running : RunningItem) (counts : Counts) :
    SchedulerProgram Counts := do
  match ← attempt site (.releaseLease running.lease.leaseId owner none) with
  | .ok _ => return counts
  | .error e =>
    if e.isOperational = true then
      let item ← perform site (.getWorkItem running.workItem.workId)
      markUnknown site running (unknownFailure "lease release status is unknown" (by decide))
      return Counts.withdraw counts item.state
    else .fail e

/-- Release the lease and ignore an error of the store. -/
def releaseQuietly (site : Site) (owner : String) (leaseId : Uuid) : SchedulerProgram Unit := do
  match ← attempt site (.releaseLease leaseId owner none) with
  | .ok _ => return ()
  | .error e => if e.isOperational = true then return () else .fail e

/-- The completion of a worker is recorded: as unknown when its lease is known to be lost, else
as its result says, followed by the release of the lease. -/
def recordCompletion (site : Site) (owner : String) (now : Time) (running : RunningItem)
    (lost : Bool) (result : WorkerResult) (counts : Counts) : SchedulerProgram Counts :=
  if lost = true then do
    markUnknown site running (unknownFailure "lease expired before worker completion" (by decide))
    return { counts with unknown := counts.unknown + 1 }
  else do
    let recorded ← recordResult site now running result counts
    releaseRecorded site owner running recorded

/-- What the pass does once a completion is known to count: record it, and close the plan if it
is complete. -/
def settleCompletion (site : Site) (owner : String) (now : Time) (running : RunningItem)
    (lost : Bool) (result : WorkerResult) (counts : Counts) : SchedulerProgram Counts := do
  let counts ← recordCompletion site owner now running lost result counts
  let _ ← perform site
    (.completePlanIfTerminal running.workItem.planId running.workItem.runId none)
  return counts

/-- What the pass does when the worker at `index` has finished. -/
def handleCompletion (owner : String) (now : Time) (index : ℕ) (running : RunningItem)
    (lost : Bool) (result : WorkerResult) (counts : Counts) : SchedulerProgram Counts := do
  let site := Site.completion index running.lease.leaseId running.workItem.workId
  let current ← perform (.completionRead index running.lease.leaseId running.workItem.workId)
    (.getWorkItem running.workItem.workId)
  if current.state = .cancelled ∨ current.state = .unknown then
    releaseQuietly site owner running.lease.leaseId
    return if current.state = .unknown then { counts with unknown := counts.unknown + 1 }
      else counts
  else settleCompletion site owner now running lost result counts

/-- Handle the futures that are done and pending, in order. -/
def handleDone (owner : String) (now : Time) (running : List RunningItem) :
    List (ℕ × WorkerResult) → Waiting → SchedulerProgram Waiting
  | [], waiting => return waiting
  | (index, result) :: futures, waiting =>
    match running[index]? with
    | none => handleDone owner now running futures waiting
    | some item =>
      if index ∈ waiting.pending then do
        let counts ← handleCompletion owner now index item
          (item.lease.leaseId ∈ waiting.lost) result waiting.counts
        handleDone owner now running futures
          { waiting with pending := waiting.pending.erase index, counts := counts }
      else handleDone owner now running futures waiting

/-! ## Heartbeats and rounds -/

/-- Renew the leases of the pending futures that are not lost; one that cannot be renewed is
lost. -/
def renewLeases (policy : ExecutionPolicy) (owner : String) (heartbeatNow : Time)
    (running : List RunningItem) : List ℕ → List Uuid → SchedulerProgram (List Uuid)
  | [], lost => return lost
  | index :: pending, lost =>
    match running[index]? with
    | none => renewLeases policy owner heartbeatNow running pending lost
    | some item =>
      if item.lease.leaseId ∈ lost then
        renewLeases policy owner heartbeatNow running pending lost
      else do
        match ← attempt .heartbeat (.renewLease item.lease.leaseId owner heartbeatNow
          (seconds policy.leaseTtlSeconds)) with
        | .ok _ => renewLeases policy owner heartbeatNow running pending lost
        | .error e =>
          if e.isOperational = true then
            renewLeases policy owner heartbeatNow running pending (item.lease.leaseId :: lost)
          else .fail e

/-- One round: the completions, then a heartbeat if futures are still pending. -/
def runRound (policy : ExecutionPolicy) (owner : String) (now : Time)
    (running : List RunningItem) (round : Round) (waiting : Waiting) :
    SchedulerProgram Waiting := do
  let waiting ← handleDone owner now running round.done waiting
  if waiting.pending = [] then return waiting
  else
    let lost ← renewLeases policy owner round.heartbeatNow running
      (arrange round.order waiting.pending) waiting.lost
    return { waiting with lost := lost }

/-- The rounds of a pass, until no future is pending. -/
def runRounds (policy : ExecutionPolicy) (owner : String) (now : Time)
    (running : List RunningItem) : List Round → Waiting → SchedulerProgram (Option Waiting)
  | [], waiting => return if waiting.pending = [] then some waiting else none
  | round :: rounds, waiting =>
    if waiting.pending = [] then return some waiting
    else do
      let waiting ← runRound policy owner now running round waiting
      runRounds policy owner now running rounds waiting

/-! ## Passes -/

/-- The leased work items become running. -/
def startBatch (now : Time) (leased : List (WorkItemRecord × LeaseRecord)) :
    SchedulerProgram (List RunningItem) := do
  updateRuns now (leased.map fun selected => selected.1.runId).dedup
  updatePlans now (leased.map fun selected => selected.1.planId).dedup
  startItems now leased

/-- What a pass waits for when its workers have been started. -/
def waitingFor (running : List RunningItem) : Waiting :=
  { pending := List.range running.length, lost := [], counts := .zero }

/-- Start the leased work items, wait for their workers, and report. -/
def runBatch (policy : ExecutionPolicy) (owner : String) (now : Time) (rounds : List Round)
    (leased : List (WorkItemRecord × LeaseRecord)) :
    SchedulerProgram (Option SchedulerRunReport) := do
  let running ← startBatch now leased
  match ← runRounds policy owner now running rounds (waitingFor running) with
  | none => return none
  | some waiting =>
    let report ← SchedulerProgram.ofExcept
      (SchedulerRunReport.create leased.length waiting.counts false none)
    return some report

/-- Lease and execute one bounded batch, waiting for its workers to finish. -/
def dispatchOnce (policy : ExecutionPolicy) (owner : String) (now : Time) (rounds : List Round) :
    SchedulerProgram (Option SchedulerRunReport) := do
  let leased ← leaseBatch policy owner now policy.maxConcurrency
  if leased.isEmpty = true then
    let nextAvailableAt ← perform .leasing (.nextAvailableAt now)
    let report ← SchedulerProgram.ofExcept (SchedulerRunReport.create 0 .zero true nextAvailableAt)
    return some report
  else runBatch policy owner now rounds leased

/-! ## Reconciliation -/

/-- A failed answer of a backend that finalizes no attempt may allow a retry. -/
def retryReconciled (now : Time) (item : WorkItemRecord) (outcome : WorkerOutcome)
    (failure : Option FailureClassification) : SchedulerProgram Bool :=
  match outcome.terminalState, outcome.finalization, failure with
  | .failed, none, some failure => scheduleRetry .reconciling item failure now true
  | _, _, _ => return false

/-- The backend's answer about an unknown attempt is recorded, and may allow a retry. -/
def recordReconciled (now : Time) (item : WorkItemRecord) (attempt : AttemptRecord)
    (outcome : WorkerOutcome) (counts : Counts) : SchedulerProgram Counts := do
  let failure := (receiptFor outcome.receipts attempt.attemptId).bind AttemptReceipt.failure
  let _ ← perform .reconciling (.transitionAttempt attempt.attemptId
    outcome.terminalState.toAttempt failure (some .reconciled) none none)
  let _ ← perform .reconciling
    (.updatePlannedTrial item.trialId outcome.terminalState.toTrial (some now))
  let _ ← perform .reconciling
    (.updateWorkItem item.workId outcome.terminalState.toWorkItem none (some now))
  let retried ← retryReconciled now item outcome failure
  if retried = true then return { counts with retried := counts.retried + 1 }
  else
    let _ ← perform .reconciling
      (.completePlanIfTerminal item.planId item.runId (some now))
    return counts

/-- Reconcile one work item, if it is unknown. -/
def reconcileItem (backends : String → Option ExecutionBackendControl) (now : Time)
    (item : WorkItemRecord) (counts : Counts) : SchedulerProgram Counts :=
  if item.state ≠ .unknown then return counts
  else do
    let stillUnknown : Counts := { counts with unknown := counts.unknown + 1 }
    let attempts ← perform .reconciling (.listAttemptsForWork item.workId)
    match attempts.getLast? with
    | none => return stillUnknown
    | some attempt =>
      let submissions ← perform .reconciling (.listBackendSubmissions attempt.attemptId)
      match submissions.getLast?, backends item.backend with
      | some submission, some backend =>
        match backend.reconcile item attempt submission with
        | .error _ => return stillUnknown
        | .ok outcome =>
          if outcome.terminalState = .unknown then return stillUnknown
          else recordReconciled now item attempt outcome counts
      | _, _ => return stillUnknown

/-- Reconcile work items in order. -/
def reconcileItems (backends : String → Option ExecutionBackendControl) (now : Time) :
    List WorkItemRecord → Counts → SchedulerProgram Counts
  | [], counts => return counts
  | item :: items, counts => do
    let counts ← reconcileItem backends now item counts
    reconcileItems backends now items counts

/-- Reconcile unknown work before allowing any retry. -/
def reconcileUnknown (runId : Uuid) (backends : String → Option ExecutionBackendControl)
    (now : Time) : SchedulerProgram SchedulerRunReport := do
  let items ← perform .reconciling (.listWorkItems runId)
  let counts ← reconcileItems backends now items .zero
  SchedulerProgram.ofExcept (SchedulerRunReport.create 0 counts true none)

/-! ## Cancellation -/

/-- The answer of a backend to the request to cancel an attempt. -/
def cancelAttempt (backend : Option ExecutionBackendControl) (item : WorkItemRecord)
    (attempt : AttemptRecord) (submission : Option BackendSubmissionRecord) :
    Except StoreError BackendCancellationResult :=
  match submission, backend.bind ExecutionBackendControl.cancel with
  | none, _ => .ok ⟨.confirmed, "no external submission exists", by decide⟩
  | some _, none => .ok ⟨.unsupported, "backend does not support cancellation", by decide⟩
  | some submission, some cancel =>
    match cancel item attempt submission with
    | .ok result => .ok result
    | .error message =>
      if h : isBlank message = false then .ok ⟨.unknown, message, h⟩
      else .error (.valueError "message must not be blank")

/-- The message of the failure recorded when a cancellation is not confirmed. -/
def cancellationMessage (result : BackendCancellationResult) : String :=
  "cancellation " ++ result.status.value ++ ": " ++ result.message

lemma cancellationMessage_nonblank (result : BackendCancellationResult) :
    isBlank (cancellationMessage result) = false := by
  have hc : isSpace 'c' = false := by decide
  simp [isBlank, cancellationMessage, hc]

/-- The submission of an attempt, if it has one, takes the state a cancellation ends with. -/
def transitionSubmission (now : Time) (submission : Option BackendSubmissionRecord)
    (state : BackendSubmissionState) (status : CancellationStatus)
    (reconciliation : Option ReconciliationState) : SchedulerProgram Unit :=
  match submission with
  | none => return ()
  | some submission => do
    let _ ← perform .cancelling (.transitionBackendSubmission submission.submissionId state
      (some status) reconciliation (some now))
    return ()

/-- A confirmed cancellation closes the attempt, its submission, its work item and its
trial. -/
def recordCancelled (now : Time) (item : WorkItemRecord) (attempt : AttemptRecord)
    (submission : Option BackendSubmissionRecord) : SchedulerProgram Unit := do
  let _ ← perform .cancelling
    (.transitionAttempt attempt.attemptId .cancelled none none (some .confirmed) (some now))
  transitionSubmission now submission .cancelled .confirmed none
  let _ ← perform .cancelling (.updateWorkItem item.workId .cancelled none (some now))
  let _ ← perform .cancelling (.updatePlannedTrial item.trialId .cancelled (some now))
  return ()

/-- After any other answer they are unknown. -/
def recordUncancelled (now : Time) (item : WorkItemRecord) (attempt : AttemptRecord)
    (submission : Option BackendSubmissionRecord) (result : BackendCancellationResult) :
    SchedulerProgram Unit := do
  let _ ← perform .cancelling (.transitionAttempt attempt.attemptId .unknown
    (some (unknownFailure (cancellationMessage result) (cancellationMessage_nonblank result)))
    (some .pending) (some result.status.toStatus) (some now))
  transitionSubmission now submission .unknown result.status.toStatus (some .pending)
  let _ ← perform .cancelling (.updateWorkItem item.workId .unknown none (some now))
  let _ ← perform .cancelling (.updatePlannedTrial item.trialId .unknown (some now))
  return ()

/-- The backend's answer to the request to cancel is recorded and counted. -/
def recordCancellation (now : Time) (item : WorkItemRecord) (attempt : AttemptRecord)
    (submission : Option BackendSubmissionRecord) (result : BackendCancellationResult)
    (counts : Counts) : SchedulerProgram Counts :=
  if result.status = .confirmed then do
    recordCancelled now item attempt submission
    return { counts with cancelled := counts.cancelled + 1 }
  else do
    recordUncancelled now item attempt submission result
    return { counts with unknown := counts.unknown + 1 }

/-- Release the active lease on a work item, if there is one and the store allows it. -/
def releaseActive (runId : Uuid) (owner : String) (now : Time) (item : WorkItemRecord) :
    SchedulerProgram Unit := do
  match ← attempt .cancelling (.listLeasesForRun runId) with
  | .error e => if e.isOperational = true then return () else .fail e
  | .ok leases =>
    match leases.find? fun l => l.workId = item.workId ∧ l.state = .active with
    | none => return ()
    | some lease =>
      match ← attempt .cancelling (.releaseLease lease.leaseId owner (some now)) with
      | .ok _ => return ()
      | .error e => if e.isOperational = true then return () else .fail e

/-- Cancel one work item, if it was asked to stop and has an attempt. -/
def cancelItem (runId : Uuid) (owner : String)
    (backends : String → Option ExecutionBackendControl) (now : Time) (item : WorkItemRecord)
    (counts : Counts) : SchedulerProgram Counts :=
  if item.state ≠ .cancelRequested then return counts
  else do
    let attempts ← perform .cancelling (.listAttemptsForWork item.workId)
    match attempts.getLast? with
    | none => return counts
    | some attempt =>
      let submissions ← perform .cancelling (.listBackendSubmissions attempt.attemptId)
      let result ← SchedulerProgram.ofExcept
        (cancelAttempt (backends item.backend) item attempt submissions.getLast?)
      let counts ← recordCancellation now item attempt submissions.getLast? result counts
      let _ ← perform .cancelling
        (.completePlanIfTerminal item.planId item.runId (some now))
      releaseActive runId owner now item
      return counts

/-- Cancel work items in order. -/
def cancelItems (runId : Uuid) (owner : String)
    (backends : String → Option ExecutionBackendControl) (now : Time) :
    List WorkItemRecord → Counts → SchedulerProgram Counts
  | [], counts => return counts
  | item :: items, counts => do
    let counts ← cancelItem runId owner backends now item counts
    cancelItems runId owner backends now items counts

/-- Cancel active work through its backend and close only known outcomes. -/
def cancelActive (runId : Uuid) (owner : String)
    (backends : String → Option ExecutionBackendControl) (now : Time) :
    SchedulerProgram SchedulerRunReport := do
  let run ← perform .cancelling (.requestCancellation runId none (some now))
  let items ← perform .cancelling (.listWorkItems run.runId)
  let counts ← cancelItems run.runId owner backends now items .zero
  SchedulerProgram.ofExcept (SchedulerRunReport.create 0 counts true none)

end LocalScheduler

end AecBench.Execution
