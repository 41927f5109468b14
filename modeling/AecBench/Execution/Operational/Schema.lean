import AecBench.Lib.Table
import AecBench.Lib.Validation
import AecBench.Execution.Models

/-!
# The operational database

The tables of the operational store, one list of rows a table, and the errors its methods
raise. Rows are kept in insertion order; no method deletes a row.

## Main definitions

* `RunRecord`, `PlanRecord`, `PlannedTrialRecord`, `WorkItemRecord`, `AttemptRecord`,
  `BackendSubmissionRecord`, `LeaseRecord` — the rows.
* `OperationalStore` — the database; `OperationalStore.run?` and its siblings look a row up by
  its primary key, `OperationalStore.requireRun` and its siblings raise when there is none.
* `OperationalStore.setRuns` and its siblings — the update of one table.
* `StoreError` — the errors.

## Implementation notes

* The three failure columns of an attempt are one column here: every write fills or clears all
  three together.
* Columns nothing in the package reads back (`application_version`, the schema row) are left
  out.
-/

namespace AecBench.Execution

structure RunRecord where
  runId : Uuid
  status : RunStatus
  specRef : String
  createdAt : Time
  startedAt : Option Time
  finishedAt : Option Time
  updatedAt : Time
  cancellationRequestedAt : Option Time

structure PlanRecord where
  planId : Uuid
  runId : Uuid
  state : PlanState
  planRef : String
  createdAt : Time
  updatedAt : Time

structure PlannedTrialRecord where
  trialId : Uuid
  planId : Uuid
  runId : Uuid
  ordinal : ℕ
  state : TrialState
  createdAt : Time
  updatedAt : Time

structure WorkItemRecord where
  workId : Uuid
  workKey : String
  runId : Uuid
  trialId : Uuid
  kind : String
  state : WorkItemState
  priority : ℤ
  createdAt : Time
  updatedAt : Time
  planId : Uuid
  ordinal : ℕ
  executionFamily : String
  backend : String
  providerRoute : String
  modelRoute : String
  resourceClass : String
  availableAt : Time
  retryPolicy : RetryPolicy
  deriving DecidableEq

structure AttemptRecord where
  attemptId : Uuid
  workId : Uuid
  runId : Uuid
  trialId : Uuid
  attemptNumber : ℕ
  candidateIndex : ℕ
  retryNumber : ℕ
  leaseId : Option Uuid
  state : AttemptState
  createdAt : Time
  startedAt : Option Time
  finishedAt : Option Time
  updatedAt : Time
  failure : Option FailureClassification
  reconciliationState : ReconciliationState
  cancellationStatus : CancellationStatus

structure BackendSubmissionRecord where
  submissionId : Uuid
  attemptId : Uuid
  backend : String
  externalId : Option String
  externalWorkId : Option String
  state : BackendSubmissionState
  submittedAt : Time
  updatedAt : Time
  cancellationStatus : CancellationStatus
  reconciliationState : ReconciliationState

structure LeaseRecord where
  leaseId : Uuid
  workId : Uuid
  owner : String
  acquiredAt : Time
  expiresAt : Time
  heartbeatAt : Time
  state : LeaseState
  releasedAt : Option Time

/-- The errors of the store: the base error, its three subclasses, and the `ValueError` of a
rejected argument. -/
inductive StoreError
  | operational (message : String)
  | conflict (message : String)
  | notFound (message : String)
  | leaseUnavailable (message : String)
  | valueError (message : String)

/-- The error is an `OperationalStoreError`. -/
def StoreError.isOperational : StoreError → Bool
  | .valueError _ => false
  | _ => true

export Validation (bind_eq_ok pure_eq_ok ite_error_eq_ok)

/-- The operational database. -/
structure OperationalStore where
  runs : List RunRecord
  plans : List PlanRecord
  plannedTrials : List PlannedTrialRecord
  workItems : List WorkItemRecord
  leases : List LeaseRecord
  attempts : List AttemptRecord
  submissions : List BackendSubmissionRecord

namespace OperationalStore

/-- A database that was just initialized. -/
def empty : OperationalStore := ⟨[], [], [], [], [], [], []⟩

variable (s : OperationalStore)

def run? (id : Uuid) : Option RunRecord := Table.lookup RunRecord.runId id s.runs

def plan? (id : Uuid) : Option PlanRecord := Table.lookup PlanRecord.planId id s.plans

def plannedTrial? (id : Uuid) : Option PlannedTrialRecord :=
  Table.lookup PlannedTrialRecord.trialId id s.plannedTrials

def workItem? (id : Uuid) : Option WorkItemRecord :=
  Table.lookup WorkItemRecord.workId id s.workItems

def lease? (id : Uuid) : Option LeaseRecord := Table.lookup LeaseRecord.leaseId id s.leases

def attempt? (id : Uuid) : Option AttemptRecord :=
  Table.lookup AttemptRecord.attemptId id s.attempts

def submission? (id : Uuid) : Option BackendSubmissionRecord :=
  Table.lookup BackendSubmissionRecord.submissionId id s.submissions

/-! ### `_require_row` -/

/-- The row that was looked up, or the error that names its table and id. -/
def requireRow {ρ : Type} (table : String) (id : Uuid) (row : Option ρ) : Except StoreError ρ :=
  match row with
  | some r => .ok r
  | none => .error (.notFound s!"{table} record not found: {id}")

def requireRun (id : Uuid) : Except StoreError RunRecord :=
  requireRow "operational_runs" id (s.run? id)

def requirePlan (id : Uuid) : Except StoreError PlanRecord :=
  requireRow "operational_plans" id (s.plan? id)

def requirePlannedTrial (id : Uuid) : Except StoreError PlannedTrialRecord :=
  requireRow "operational_planned_trials" id (s.plannedTrial? id)

def requireWorkItem (id : Uuid) : Except StoreError WorkItemRecord :=
  requireRow "operational_work_items" id (s.workItem? id)

def requireLease (id : Uuid) : Except StoreError LeaseRecord :=
  requireRow "operational_leases" id (s.lease? id)

def requireAttempt (id : Uuid) : Except StoreError AttemptRecord :=
  requireRow "operational_attempts" id (s.attempt? id)

def requireSubmission (id : Uuid) : Except StoreError BackendSubmissionRecord :=
  requireRow "operational_backend_submissions" id (s.submission? id)

@[simp] lemma requireRow_eq_ok {ρ : Type} {table : String} {id : Uuid} {row : Option ρ} {r : ρ} :
    requireRow table id row = .ok r ↔ row = some r := by
  cases row <;> simp [requireRow]

/-! ### `UPDATE ... SET ... WHERE` -/

section Updates

def setRuns (p : RunRecord → Prop) [DecidablePred p] (f : RunRecord → RunRecord) :
    OperationalStore := { s with runs := Table.updateWhere p f s.runs }

def setPlans (p : PlanRecord → Prop) [DecidablePred p] (f : PlanRecord → PlanRecord) :
    OperationalStore := { s with plans := Table.updateWhere p f s.plans }

def setPlannedTrials (p : PlannedTrialRecord → Prop) [DecidablePred p]
    (f : PlannedTrialRecord → PlannedTrialRecord) : OperationalStore :=
  { s with plannedTrials := Table.updateWhere p f s.plannedTrials }

def setWorkItems (p : WorkItemRecord → Prop) [DecidablePred p]
    (f : WorkItemRecord → WorkItemRecord) : OperationalStore :=
  { s with workItems := Table.updateWhere p f s.workItems }

def setLeases (p : LeaseRecord → Prop) [DecidablePred p] (f : LeaseRecord → LeaseRecord) :
    OperationalStore := { s with leases := Table.updateWhere p f s.leases }

def setAttempts (p : AttemptRecord → Prop) [DecidablePred p]
    (f : AttemptRecord → AttemptRecord) : OperationalStore :=
  { s with attempts := Table.updateWhere p f s.attempts }

def setSubmissions (p : BackendSubmissionRecord → Prop) [DecidablePred p]
    (f : BackendSubmissionRecord → BackendSubmissionRecord) : OperationalStore :=
  { s with submissions := Table.updateWhere p f s.submissions }

/-! ### Looking a row up after an update -/

lemma run?_setRuns {p : RunRecord → Prop} [DecidablePred p] {f : RunRecord → RunRecord}
    (hf : ∀ r, (f r).runId = r.runId) (id : Uuid) :
    (s.setRuns p f).run? id = (s.run? id).map fun r => if p r then f r else r :=
  Table.lookup_updateWhere (fun r _ => hf r) id s.runs

lemma plan?_setPlans {p : PlanRecord → Prop} [DecidablePred p] {f : PlanRecord → PlanRecord}
    (hf : ∀ r, (f r).planId = r.planId) (id : Uuid) :
    (s.setPlans p f).plan? id = (s.plan? id).map fun r => if p r then f r else r :=
  Table.lookup_updateWhere (fun r _ => hf r) id s.plans

variable {p : WorkItemRecord → Prop} {f : WorkItemRecord → WorkItemRecord}

lemma workItem?_setWorkItems [DecidablePred p] (hf : ∀ r, (f r).workId = r.workId) (id : Uuid) :
    (s.setWorkItems p f).workItem? id = (s.workItem? id).map fun r => if p r then f r else r :=
  Table.lookup_updateWhere (fun r _ => hf r) id s.workItems

lemma workItem?_setWorkItems_of_ne [DecidablePred p] (hf : ∀ r, (f r).workId = r.workId)
    {id id' : Uuid} (hp : ∀ r, p r → r.workId = id') (hne : id ≠ id') :
    (s.setWorkItems p f).workItem? id = s.workItem? id := by
  rw [workItem?_setWorkItems s hf]
  cases hr : s.workItem? id with
  | none => rfl
  | some r =>
    have hid : r.workId = id := (Table.mem_of_lookup hr).2
    rw [Option.map_some, if_neg fun h => hne (hid.symm.trans (hp r h))]

lemma lease?_setLeases {p : LeaseRecord → Prop} [DecidablePred p]
    {f : LeaseRecord → LeaseRecord} (hf : ∀ r, (f r).leaseId = r.leaseId) (id : Uuid) :
    (s.setLeases p f).lease? id = (s.lease? id).map fun r => if p r then f r else r :=
  Table.lookup_updateWhere (fun r _ => hf r) id s.leases

lemma lease?_setLeases_of_ne {p : LeaseRecord → Prop} [DecidablePred p]
    {f : LeaseRecord → LeaseRecord} (hf : ∀ r, (f r).leaseId = r.leaseId) {id id' : Uuid}
    (hp : ∀ r, p r → r.leaseId = id') (hne : id ≠ id') :
    (s.setLeases p f).lease? id = s.lease? id := by
  rw [lease?_setLeases s hf]
  cases hr : s.lease? id with
  | none => rfl
  | some r =>
    have hid : r.leaseId = id := (Table.mem_of_lookup hr).2
    rw [Option.map_some, if_neg fun h => hne (hid.symm.trans (hp r h))]

end Updates

end OperationalStore

end AecBench.Execution
