import Mathlib.Data.List.Nodup
import Mathlib.Data.Int.Notation

/-!
# Work, attempt, lease and outcome contracts

The values that the operational store and the local scheduler exchange with their callers:
the states of work items, attempts, leases and backend submissions, the classification of
failures, the retry and execution policies, and the results a worker or a backend reports.
A contract that the source checks when a value is built is a field of the structure, so a value
that breaks it cannot be written down.

## Main definitions

* `FailureClassification`, `failureClassForKind` — a failure and the class of its kind.
* `RetryPolicy`, `ExecutionPolicy` — the limits of a run.
* `AttemptReceipt`, `WorkerOutcome`, `BackendCancellationResult` — what workers and backends
  report.

## Implementation notes

* An entity id is a UUIDv7; it is modelled by its value as a number, which orders as the
  canonical text of the id does. Callers pass ids, keys and references that have passed the
  validators of `contracts/identity.py`.
* A time is a number of microseconds, as a timezone-aware `datetime` in UTC is; durations given
  in seconds are in microseconds here.
* Receipts keep the fields the scheduler reads.
-/

namespace AecBench.Execution

/-- An entity id. -/
abbrev Uuid := ℕ

/-- A moment, in microseconds. -/
abbrev Time := ℤ

/-- A positive or zero span of time, in microseconds. -/
abbrev Duration := ℕ

/-- A span of whole seconds. -/
def seconds (n : ℕ) : Duration := n * 1000000

/-- `str.isspace` for one character. -/
def isSpace (c : Char) : Bool :=
  let n := c.toNat
  (9 ≤ n && n ≤ 13) || (28 ≤ n && n ≤ 32) || n == 0x85 || n == 0xa0 || n == 0x1680 ||
    (0x2000 ≤ n && n ≤ 0x200a) || n == 0x2028 || n == 0x2029 || n == 0x202f || n == 0x205f ||
    n == 0x3000

/-- The text is empty after `str.strip`. -/
def isBlank (text : String) : Bool := text.toList.all isSpace

/-! ## States -/

inductive RunStatus
  | created | ready | running | completed | failed | cancelled
  deriving DecidableEq

inductive PlanState
  | draft | ready | started | closed
  deriving DecidableEq

inductive TrialState
  | planned | queued | running | succeeded | failed | cancelled | invalid | unknown
  deriving DecidableEq

inductive WorkItemState
  | planned | queued | leased | running | cancelRequested
  | succeeded | failed | cancelled | invalid | unknown
  deriving DecidableEq

inductive AttemptState
  | created | submitted | running | succeeded | failed | cancelled | unknown
  deriving DecidableEq

inductive LeaseState
  | active | expired | released
  deriving DecidableEq

inductive BackendSubmissionState
  | submitted | accepted | running | completed | failed | cancelled | unknown
  deriving DecidableEq

inductive ReconciliationState
  | notRequired | pending | reconciled | unknown
  deriving DecidableEq

inductive AttemptProcessStatus
  | succeeded | failed | cancelled | unknown
  deriving DecidableEq

inductive CancellationStatus
  | notRequested | requested | confirmed | rejected | unsupported | unknown
  deriving DecidableEq

/-! ## Failures and policies -/

/-- Broad class used to decide whether an attempt may be retried. -/
inductive FailureClass
  | infrastructure | benchmark | invalidating | unknown
  deriving DecidableEq

/-- Specific provider-neutral failure facts available to retry policy. -/
inductive FailureKind
  | providerUnavailable | transportUnavailable | submissionRejected
  | workerLostBeforeSubmission | resultImportFailed | storageBusy
  | invalidOutput | verifierFailure | taskFailure | budgetExhausted
  | identityMismatch | hiddenDataExposure | limitNotEnforced
  | authorityEvidenceMissing | conflictingFinalRecord
  | unknownExternalState
  deriving DecidableEq

/-- The fixed failure class of a failure kind. -/
def failureClassForKind : FailureKind → FailureClass
  | .providerUnavailable | .transportUnavailable | .submissionRejected
  | .workerLostBeforeSubmission | .resultImportFailed | .storageBusy => .infrastructure
  | .invalidOutput | .verifierFailure | .taskFailure | .budgetExhausted => .benchmark
  | .identityMismatch | .hiddenDataExposure | .limitNotEnforced
  | .authorityEvidenceMissing | .conflictingFinalRecord => .invalidating
  | .unknownExternalState => .unknown

/-- Classification of one failed or uncertain attempt. -/
structure FailureClassification where
  failureClass : FailureClass
  kind : FailureKind
  message : String
  class_eq : failureClass = failureClassForKind kind
  message_nonblank : isBlank message = false

/-- What the policy allows after an unknown outcome. -/
inductive UnknownStatePolicy
  | reconcileBeforeRetry | neverRetry
  deriving DecidableEq

/-- Explicit retry inputs of a run. -/
structure RetryPolicy where
  maximumAttempts : ℕ
  retryableFailureKinds : List FailureKind
  backoffSeconds : Duration
  maximumElapsedSeconds : Option Duration
  unknownStatePolicy : UnknownStatePolicy
  maximumAttempts_pos : 0 < maximumAttempts
  maximumElapsed_pos : ∀ d ∈ maximumElapsedSeconds, 0 < d
  kinds_nodup : retryableFailureKinds.Nodup
  kinds_infrastructure :
    ∀ kind ∈ retryableFailureKinds, failureClassForKind kind = .infrastructure
  single_attempt : maximumAttempts = 1 ↔ retryableFailureKinds = []
  deriving DecidableEq

/-- The policy whose fields are left at their defaults. -/
def RetryPolicy.default : RetryPolicy where
  maximumAttempts := 1
  retryableFailureKinds := []
  backoffSeconds := 0
  maximumElapsedSeconds := none
  unknownStatePolicy := .reconcileBeforeRetry
  maximumAttempts_pos := Nat.one_pos
  maximumElapsed_pos := by simp
  kinds_nodup := List.nodup_nil
  kinds_infrastructure := by simp
  single_attempt := by simp

/-- Configured limits, as a mapping from a value to the number of active leases it may have. -/
abbrev Limits (κ : Type) := List (κ × ℕ)

/-- Resolved local execution limits and fairness settings of a run. -/
structure ExecutionPolicy where
  maxConcurrency : ℕ
  retryPolicy : RetryPolicy
  leaseTtlSeconds : ℕ
  leaseHeartbeatSeconds : ℕ
  priorityAgingSeconds : ℕ
  runLimits : Limits Uuid
  backendLimits : Limits String
  providerRouteLimits : Limits String
  modelRouteLimits : Limits String
  resourceClassLimits : Limits String
  executionFamilyLimits : Limits String
  maxConcurrency_pos : 0 < maxConcurrency
  heartbeat_pos : 0 < leaseHeartbeatSeconds
  heartbeat_lt_ttl : leaseHeartbeatSeconds < leaseTtlSeconds
  aging_pos : 0 < priorityAgingSeconds
  runLimits_valid : ∀ kv ∈ runLimits, 0 < kv.2 ∧ kv.2 ≤ maxConcurrency
  textLimits_valid :
    ∀ limits ∈ [backendLimits, providerRouteLimits, modelRouteLimits, resourceClassLimits,
      executionFamilyLimits],
      ∀ kv ∈ limits, isBlank kv.1 = false ∧ 0 < kv.2 ∧ kv.2 ≤ maxConcurrency

/-- The policy with the given concurrency whose other fields are left at their defaults. -/
def ExecutionPolicy.ofConcurrency (maxConcurrency : ℕ) (h : 0 < maxConcurrency) :
    ExecutionPolicy where
  maxConcurrency := maxConcurrency
  retryPolicy := .default
  leaseTtlSeconds := 300
  leaseHeartbeatSeconds := 30
  priorityAgingSeconds := 300
  runLimits := []
  backendLimits := []
  providerRouteLimits := []
  modelRouteLimits := []
  resourceClassLimits := []
  executionFamilyLimits := []
  maxConcurrency_pos := h
  heartbeat_pos := by omega
  heartbeat_lt_ttl := by omega
  aging_pos := by omega
  runLimits_valid := by simp
  textLimits_valid := by simp

/-! ## Results of workers and backends -/

/-- The receipt of one collected attempt. -/
structure AttemptReceipt where
  attemptId : Uuid
  processStatus : AttemptProcessStatus
  cancellationStatus : CancellationStatus
  failure : Option FailureClassification
  reconciliationStatus : ReconciliationState
  failure_of_failed :
    processStatus = .failed ∨ processStatus = .unknown → failure.isSome
  no_failure_of_succeeded : processStatus = .succeeded → failure = none
  cancelled_status : processStatus = .cancelled →
    cancellationStatus = .confirmed ∨ cancellationStatus = .unknown

/-- The terminal states a worker can report. -/
inductive OutcomeState
  | succeeded | failed | unknown
  deriving DecidableEq

/-- The trial record a finalization points to, by the attempt that made it. -/
structure TrialFinalization where
  attemptId : Uuid

/-- The receipt with a given attempt, the first one if there are several. -/
def receiptFor (receipts : List AttemptReceipt) (attemptId : Uuid) : Option AttemptReceipt :=
  receipts.find? fun receipt => receipt.attemptId = attemptId

/-- The terminal result an adapter returns to the scheduler. -/
structure WorkerOutcome where
  terminalState : OutcomeState
  receipts : List AttemptReceipt
  finalization : Option TrialFinalization
  receipts_ne : receipts ≠ []
  unknown_not_final : terminalState = .unknown → finalization = none
  succeeded_final : terminalState = .succeeded → finalization.isSome
  failed_cause : terminalState = .failed → finalization = none →
    ∃ receipt ∈ receipts, ∃ failure ∈ receipt.failure, failure.failureClass = .infrastructure
  final_receipt : ∀ final ∈ finalization, ∃ receipt ∈ receipts,
    receipt.attemptId = final.attemptId
  succeeded_receipt : terminalState = .succeeded → ∀ final ∈ finalization,
    ∀ receipt ∈ receiptFor receipts final.attemptId, receipt.processStatus = .succeeded

/-- What a worker thread ends with: a normal return without an outcome, an outcome, or an
exception. -/
inductive WorkerResult
  | returned
  | outcome (value : WorkerOutcome)
  | raised

/-- The statuses of a backend cancellation request. -/
inductive BackendCancellationStatus
  | confirmed | rejected | unsupported | unknown
  deriving DecidableEq

/-- The text of a backend cancellation status. -/
def BackendCancellationStatus.value : BackendCancellationStatus → String
  | .confirmed => "confirmed"
  | .rejected => "rejected"
  | .unsupported => "unsupported"
  | .unknown => "unknown"

/-- The same status as the store records it. -/
def BackendCancellationStatus.toStatus : BackendCancellationStatus → CancellationStatus
  | .confirmed => .confirmed
  | .rejected => .rejected
  | .unsupported => .unsupported
  | .unknown => .unknown

/-- Provider-neutral result of one backend cancellation request. -/
structure BackendCancellationResult where
  status : BackendCancellationStatus
  message : String
  message_nonblank : isBlank message = false

end AecBench.Execution
