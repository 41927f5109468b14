import AecBench.Lib.Program
import AecBench.Execution.Operational.Leases

/-!
# Store operations

The public methods of the operational store as operations on a shared database, and the one
lemma that says what each of them can do to it. The properties of whole runs are derived from
that lemma, without unfolding a method again.

## Main definitions

* `StoreOp` — a call of a public method; `StoreOp.exec` — its answer and the database after it.
* `StoreOp.Effect` — what an operation can do to the database.
* `OperationalStore.semantics` — the operations as steps of programs that share a database.

## Main results

* `StoreOp.exec_effect` — an operation does nothing but its effects.
* `StoreOp.Effect.leases_eq` and its siblings — the tables an operation leaves alone.

## Implementation notes

* Where a method takes `now` with a default, the operation takes an optional time and the time
  of the clock is an input of the step.
* All reads are one operation that carries its query.
-/

namespace AecBench.Execution

open OperationalStore

/-- A call of a public method of the store. -/
inductive StoreOp : Type → Type 1
  | read {β : Type} (query : OperationalStore → Except StoreError β) : StoreOp β
  | createRun (runId : Uuid) (specRef : String) (status : RunStatus) (now : Option Time) :
      StoreOp RunRecord
  | updateRun (runId : Uuid) (status : RunStatus) (now : Option Time) : StoreOp RunRecord
  | requestCancellation (runId : Uuid) (trialId : Option Uuid) (now : Option Time) :
      StoreOp RunRecord
  | putPlan (planId runId : Uuid) (planRef : String) (state : PlanState) (now : Option Time) :
      StoreOp PlanRecord
  | updatePlan (planId : Uuid) (state : PlanState) (now : Option Time) : StoreOp PlanRecord
  | putPlannedTrial (trialId planId runId : Uuid) (ordinal : ℕ) (state : TrialState)
      (now : Option Time) : StoreOp PlannedTrialRecord
  | updatePlannedTrial (trialId : Uuid) (state : TrialState) (now : Option Time) :
      StoreOp PlannedTrialRecord
  | completePlanIfTerminal (planId runId : Uuid) (now : Option Time) :
      StoreOp (Option (PlanRecord × RunRecord))
  | createWorkItem (item : WorkItemIdentity) (now : Option Time) : StoreOp WorkItemRecord
  | updateWorkItem (workId : Uuid) (state : WorkItemState) (availableAt : Option Time)
      (now : Option Time) : StoreOp WorkItemRecord
  | scheduleRetry (workId : Uuid) (availableAt : Time) (now : Option Time) :
      StoreOp WorkItemRecord
  | createAttempt (attemptId workId trialId : Uuid)
      (attemptNumber candidateIndex retryNumber : ℕ) (leaseId : Option Uuid)
      (state : AttemptState) (now : Option Time) : StoreOp AttemptRecord
  | createAttemptForLease (workId trialId leaseId : Uuid) (candidateIndex retryNumber : ℕ)
      (now : Option Time) : StoreOp AttemptRecord
  | transitionAttempt (attemptId : Uuid) (state : AttemptState)
      (failure : Option FailureClassification)
      (reconciliationState : Option ReconciliationState)
      (cancellationStatus : Option CancellationStatus) (now : Option Time) :
      StoreOp AttemptRecord
  | recordBackendSubmission (submissionId attemptId : Uuid) (backend : String)
      (externalId externalWorkId : Option String) (state : BackendSubmissionState)
      (now : Option Time) : StoreOp BackendSubmissionRecord
  | transitionBackendSubmission (submissionId : Uuid) (state : BackendSubmissionState)
      (cancellationStatus : Option CancellationStatus)
      (reconciliationState : Option ReconciliationState) (now : Option Time) :
      StoreOp BackendSubmissionRecord
  | bindBackendSubmissionExternalIds (submissionId : Uuid) (externalId : String)
      (externalWorkId : Option String) (now : Option Time) : StoreOp BackendSubmissionRecord
  | leaseNextWorkItem (request : LeaseRequest) :
      StoreOp (Option (WorkItemRecord × LeaseRecord))
  | acquireLease (workId : Uuid) (owner : String) (now : Time) (ttl : Duration)
      (leaseId : Option Uuid) : StoreOp LeaseRecord
  | renewLease (leaseId : Uuid) (owner : String) (now : Time) (ttl : Duration) :
      StoreOp LeaseRecord
  | releaseLease (leaseId : Uuid) (owner : String) (now : Option Time) : StoreOp LeaseRecord
  | expireLeases (runId : Option Uuid) (now : Time) : StoreOp ℕ

namespace StoreOp

/-! ## Reads -/

def getPlan (planId : Uuid) : StoreOp PlanRecord := .read fun s => s.requirePlan planId

def getWorkItem (workId : Uuid) : StoreOp WorkItemRecord :=
  .read fun s => s.requireWorkItem workId

def getAttempt (attemptId : Uuid) : StoreOp AttemptRecord :=
  .read fun s => s.requireAttempt attemptId

def listWorkItems (runId : Uuid) : StoreOp (List WorkItemRecord) :=
  .read fun s => .ok (s.listWorkItems runId)

def listAttemptsForWork (workId : Uuid) : StoreOp (List AttemptRecord) :=
  .read fun s => .ok (s.listAttemptsForWork workId)

def listBackendSubmissions (attemptId : Uuid) : StoreOp (List BackendSubmissionRecord) :=
  .read fun s => .ok (s.listBackendSubmissions attemptId)

def listLeasesForRun (runId : Uuid) : StoreOp (List LeaseRecord) :=
  .read fun s => .ok (s.listLeasesForRun runId)

def nextAvailableAt (now : Time) : StoreOp (Option Time) :=
  .read fun s => .ok (s.nextAvailableAt now)

/-- The operation creates a work item, which is queued, or writes `queued` to one. -/
def Enqueues : ∀ {β : Type}, StoreOp β → Prop
  | _, .createWorkItem _ _ => True
  | _, .updateWorkItem _ state _ _ => state = .queued
  | _, _ => False

/-! ## Execution -/

/-- The end of a transaction: it commits, or it is rolled back. -/
def commit {α : Type} (s : OperationalStore) :
    Except StoreError (Committed α) → Except StoreError α × OperationalStore
  | .ok (a, s') => (.ok a, s')
  | .error e => (.error e, s)

/-- The end of `acquire_lease`, which commits before it raises. -/
def commitAnswer {α : Type} (s : OperationalStore) :
    Except StoreError (Committed (Except StoreError α)) → Except StoreError α × OperationalStore
  | .ok (a, s') => (a, s')
  | .error e => (.error e, s)

/-- The answer of an operation and the database after it, by the given clock. -/
def exec (clock : Time) : ∀ {β : Type}, StoreOp β → OperationalStore →
    Except StoreError β × OperationalStore
  | _, .read query, s => (query s, s)
  | _, .createRun runId specRef status now, s =>
    commit s (s.createRun runId specRef status (now.getD clock))
  | _, .updateRun runId status now, s => commit s (s.updateRun runId status (now.getD clock))
  | _, .requestCancellation runId trialId now, s =>
    commit s (s.requestCancellation runId trialId (now.getD clock))
  | _, .putPlan planId runId planRef state now, s =>
    commit s (s.putPlan planId runId planRef state (now.getD clock))
  | _, .updatePlan planId state now, s => commit s (s.updatePlan planId state (now.getD clock))
  | _, .putPlannedTrial trialId planId runId ordinal state now, s =>
    commit s (s.putPlannedTrial trialId planId runId ordinal state (now.getD clock))
  | _, .updatePlannedTrial trialId state now, s =>
    commit s (s.updatePlannedTrial trialId state (now.getD clock))
  | _, .completePlanIfTerminal planId runId now, s =>
    commit s (s.completePlanIfTerminal planId runId (now.getD clock))
  | _, .createWorkItem item now, s => commit s (s.createWorkItem item (now.getD clock))
  | _, .updateWorkItem workId state availableAt now, s =>
    commit s (s.updateWorkItem workId state availableAt (now.getD clock))
  | _, .scheduleRetry workId availableAt now, s =>
    commit s (s.scheduleRetry workId availableAt (now.getD clock))
  | _, .createAttempt attemptId workId trialId attemptNumber candidateIndex retryNumber leaseId
      state now, s =>
    commit s (s.createAttempt attemptId workId trialId attemptNumber candidateIndex retryNumber
      leaseId state (now.getD clock))
  | _, .createAttemptForLease workId trialId leaseId candidateIndex retryNumber now, s =>
    commit s (s.createAttemptForLease workId trialId leaseId candidateIndex retryNumber
      (now.getD clock))
  | _, .transitionAttempt attemptId state failure reconciliationState cancellationStatus now,
      s =>
    commit s (s.transitionAttempt attemptId state failure reconciliationState
      cancellationStatus (now.getD clock))
  | _, .recordBackendSubmission submissionId attemptId backend externalId externalWorkId state
      now, s =>
    commit s (s.recordBackendSubmission submissionId attemptId backend externalId externalWorkId
      state (now.getD clock))
  | _, .transitionBackendSubmission submissionId state cancellationStatus reconciliationState
      now, s =>
    commit s (s.transitionBackendSubmission submissionId state cancellationStatus
      reconciliationState (now.getD clock))
  | _, .bindBackendSubmissionExternalIds submissionId externalId externalWorkId now, s =>
    commit s (s.bindBackendSubmissionExternalIds submissionId externalId externalWorkId
      (now.getD clock))
  | _, .leaseNextWorkItem request, s => commit s (s.leaseNextWorkItem request)
  | _, .acquireLease workId owner now ttl leaseId, s =>
    commitAnswer s (s.acquireLease workId owner now ttl leaseId)
  | _, .renewLease leaseId owner now ttl, s => commit s (s.renewLease leaseId owner now ttl)
  | _, .releaseLease leaseId owner now, s =>
    commit s (s.releaseLease leaseId owner (now.getD clock))
  | _, .expireLeases runId now, s => ((.ok (s.expireLeases runId now).1),
      (s.expireLeases runId now).2)

/-! ## Effects -/

/-- What an operation can do to the database `s`. -/
inductive Effect (s : OperationalStore) : ∀ {β : Type}, StoreOp β → OperationalStore → Prop
  | unchanged {β : Type} {op : StoreOp β} : Effect s op s
  | createRun {runId : Uuid} {specRef : String} {status : RunStatus} {now : Option Time}
      {r : RunRecord} (hnew : s.run? runId = none) (hid : r.runId = runId) :
      Effect s (.createRun runId specRef status now) { s with runs := s.runs ++ [r] }
  | updateRun {runId : Uuid} {status : RunStatus} {now : Option Time} (t : Time) :
      Effect s (.updateRun runId status now)
        (s.setRuns (fun r => r.runId = runId) (RunRecord.withStatus status t))
  | requestCancellation {runId : Uuid} {trialId : Option Uuid} {now : Option Time}
      {run : RunRecord} {t : Time} {cancelled : OperationalStore}
      (hrun : s.run? runId = some run)
      (hopen : ¬ (run.status = .completed ∨ run.status = .failed ∨ run.status = .cancelled))
      (hcancelled : s.applyCancellation runId trialId t = .ok cancelled) :
      Effect s (.requestCancellation runId trialId now)
        (cancelled.closeAfterCancellation runId t)
  | putPlan {planId runId : Uuid} {planRef : String} {state : PlanState} {now : Option Time}
      {p : PlanRecord} (hnew : s.plan? planId = none) (hrun : (s.run? runId).isSome)
      (hid : p.planId = planId) (hp : p.runId = runId) (hstate : p.state = state) :
      Effect s (.putPlan planId runId planRef state now) { s with plans := s.plans ++ [p] }
  | updatePlan {planId : Uuid} {state : PlanState} {now : Option Time} (t : Time) :
      Effect s (.updatePlan planId state now) (s.setPlans (fun p => p.planId = planId) fun p =>
        { p with state := state, updatedAt := t })
  | putPlannedTrial {trialId planId runId : Uuid} {ordinal : ℕ} {state : TrialState}
      {now : Option Time} {t : PlannedTrialRecord} (hnew : s.plannedTrial? trialId = none)
      (hplan : ∃ plan, s.plan? planId = some plan ∧ plan.runId = runId)
      (hid : t.trialId = trialId) (htp : t.planId = planId) (htr : t.runId = runId) :
      Effect s (.putPlannedTrial trialId planId runId ordinal state now)
        { s with plannedTrials := s.plannedTrials ++ [t] }
  | updatePlannedTrial {trialId : Uuid} {state : TrialState} {now : Option Time} (t : Time) :
      Effect s (.updatePlannedTrial trialId state now)
        (s.setPlannedTrials (fun t => t.trialId = trialId) fun row =>
          { row with state := state, updatedAt := t })
  | completePlanIfTerminal {planId runId : Uuid} {now : Option Time} {run : RunRecord} {t : Time}
      (hrun : s.run? runId = some run)
      (hcomplete : s.scopeComplete (fun t => t.planId = planId) (fun w => w.planId = planId)
        = true) :
      Effect s (.completePlanIfTerminal planId runId now) (s.closePlan planId runId run t)
  | createWorkItem {item : WorkItemIdentity} {now : Option Time} {w : WorkItemRecord} {t : Time}
      (hnew : s.workItem? item.workId = none)
      (htrial : ∃ trial, s.plannedTrial? item.trialId = some trial ∧
        trial.planId = item.planId ∧ trial.runId = item.runId)
      (hplan : ∃ plan, s.plan? item.planId = some plan ∧ plan.runId = item.runId)
      (hfree : ∀ w ∈ s.workItems, w.trialId ≠ item.trialId) (hw : w = item.newRecord t) :
      Effect s (.createWorkItem item now) { s with workItems := s.workItems ++ [w] }
  | updateWorkItem {workId : Uuid} {state : WorkItemState} {availableAt : Option Time}
      {now : Option Time} (t : Time) :
      Effect s (.updateWorkItem workId state availableAt now)
        (s.setWorkItems (fun w => w.workId = workId)
          (WorkItemRecord.withState state availableAt t))
  | scheduleRetry {workId : Uuid} {availableAt : Time} {now : Option Time} {item : WorkItemRecord}
      {run : RunRecord} {t : Time} (hitem : s.workItem? workId = some item)
      (hrun : s.run? item.runId = some run) (hopen : run.cancellationRequestedAt = none) :
      Effect s (.scheduleRetry workId availableAt now)
        (s.requeue workId item.trialId availableAt t)
  | createAttempt {attemptId workId trialId : Uuid}
      {attemptNumber candidateIndex retryNumber : ℕ} {leaseId : Option Uuid}
      {state : AttemptState} {now : Option Time} {item : WorkItemRecord} {a : AttemptRecord}
      {t : Time} (hitem : s.workItem? workId = some item)
      (hlease : ∀ id ∈ leaseId, ∃ lease, s.lease? id = some lease ∧ lease.workId = workId ∧
        lease.state = .active)
      (ha : a = newAttempt attemptId workId item.runId trialId attemptNumber candidateIndex
        retryNumber leaseId state t)
      (hnew : s.attempt? a.attemptId = none)
      (hfree : ∀ b ∈ s.attempts, b.workId = a.workId → b.candidateIndex = a.candidateIndex →
        b.retryNumber ≠ a.retryNumber) :
      Effect s (.createAttempt attemptId workId trialId attemptNumber candidateIndex retryNumber
        leaseId state now) { s with attempts := s.attempts ++ [a] }
  | createAttemptForLease {workId trialId leaseId : Uuid} {candidateIndex retryNumber : ℕ}
      {now : Option Time} {item : WorkItemRecord} {lease : LeaseRecord} {a : AttemptRecord}
      {t : Time} (hitem : s.workItem? workId = some item)
      (hlease : s.lease? leaseId = some lease) (hwork : lease.workId = workId)
      (hactive : lease.state = .active)
      (ha : a = newAttempt (freshId (s.attempts.map AttemptRecord.attemptId)) workId item.runId
        trialId (s.nextAttemptNumber workId) candidateIndex retryNumber (some leaseId) .created
        t)
      (hnew : s.attempt? a.attemptId = none)
      (hfree : ∀ b ∈ s.attempts, b.workId = a.workId → b.candidateIndex = a.candidateIndex →
        b.retryNumber ≠ a.retryNumber) :
      Effect s (.createAttemptForLease workId trialId leaseId candidateIndex retryNumber now)
        { s with attempts := s.attempts ++ [a] }
  | transitionAttempt {attemptId : Uuid} {state : AttemptState}
      {failure : Option FailureClassification}
      {reconciliationState : Option ReconciliationState}
      {cancellationStatus : Option CancellationStatus} {now : Option Time} (t : Time) :
      Effect s (.transitionAttempt attemptId state failure reconciliationState
        cancellationStatus now)
        (s.setAttempts (fun a => a.attemptId = attemptId)
          (AttemptRecord.withState state failure reconciliationState cancellationStatus t))
  | recordBackendSubmission {submissionId attemptId : Uuid} {backend : String}
      {externalId externalWorkId : Option String} {state : BackendSubmissionState}
      {now : Option Time} {b : BackendSubmissionRecord}
      (hnew : s.submission? submissionId = none) (hattempt : (s.attempt? attemptId).isSome)
      (hid : b.submissionId = submissionId) (hb : b.attemptId = attemptId) :
      Effect s (.recordBackendSubmission submissionId attemptId backend externalId
        externalWorkId state now) { s with submissions := s.submissions ++ [b] }
  | transitionBackendSubmission {submissionId : Uuid} {state : BackendSubmissionState}
      {cancellationStatus : Option CancellationStatus}
      {reconciliationState : Option ReconciliationState} {now : Option Time} (t : Time) :
      Effect s (.transitionBackendSubmission submissionId state cancellationStatus
        reconciliationState now)
        (s.setSubmissions (fun b => b.submissionId = submissionId)
          (BackendSubmissionRecord.withState state cancellationStatus reconciliationState t))
  | bindBackendSubmissionExternalIds {submissionId : Uuid} {externalId : String}
      {externalWorkId : Option String} {now : Option Time} (t : Time) :
      Effect s (.bindBackendSubmissionExternalIds submissionId externalId externalWorkId now)
        (s.setSubmissions (fun b => b.submissionId = submissionId) fun b =>
          { b with externalId := some externalId, externalWorkId := externalWorkId
                   updatedAt := t })
  | sweepOnly {request : LeaseRequest} :
      Effect s (.leaseNextWorkItem request) (s.sweep request.now none)
  | leaseNextWorkItem {request : LeaseRequest} {candidate : WorkItemRecord}
      (hselect : (s.sweep request.now none).selectCandidate request = some candidate)
      (hgrant : (s.sweep request.now none).Grantable (newLease (s.leaseIdOr request.leaseId)
        candidate.workId request.owner request.now request.ttl)) :
      Effect s (.leaseNextWorkItem request) ((s.sweep request.now none).grant
        (newLease (s.leaseIdOr request.leaseId) candidate.workId request.owner request.now
          request.ttl) request.now)
  | acquireSweep {workId : Uuid} {owner : String} {now : Time} {ttl : Duration}
      {leaseId : Option Uuid} :
      Effect s (.acquireLease workId owner now ttl leaseId) (s.sweep now none)
  | acquireQueued {workId : Uuid} {owner : String} {now : Time} {ttl : Duration}
      {leaseId : Option Uuid} {item : WorkItemRecord}
      (hitem : (s.sweep now none).workItem? workId = some item) (hqueued : item.state = .queued)
      (hgrant : (s.sweep now none).Grantable
        (newLease (s.leaseIdOr leaseId) workId owner now ttl)) :
      Effect s (.acquireLease workId owner now ttl leaseId) ((s.sweep now none).grant
        (newLease (s.leaseIdOr leaseId) workId owner now ttl) now)
  | acquireEnded {workId : Uuid} {owner : String} {now : Time} {ttl : Duration}
      {leaseId : Option Uuid} {item : WorkItemRecord} {existing : LeaseRecord}
      (hitem : (s.sweep now none).workItem? workId = some item)
      (hexisting : existing ∈ (s.sweep now none).leases) (hactive : existing.state = .active)
      (hended : existing.expiresAt ≤ now)
      (hgrant : ((s.sweep now none).endLease existing.leaseId).Grantable
        (newLease (s.leaseIdOr leaseId) workId owner now ttl)) :
      Effect s (.acquireLease workId owner now ttl leaseId)
        (((s.sweep now none).endLease existing.leaseId).grant
          (newLease (s.leaseIdOr leaseId) workId owner now ttl) now)
  | renewLease {leaseId : Uuid} {owner : String} {now : Time} {ttl : Duration} :
      Effect s (.renewLease leaseId owner now ttl)
        (s.setLeases (fun l => l.leaseId = leaseId ∧ l.state = .active)
          (LeaseRecord.renewed now ttl))
  | releaseLease {leaseId : Uuid} {owner : String} {now : Option Time} {lease : LeaseRecord}
      (t : Time) (hlease : s.lease? leaseId = some lease) (hactive : lease.state = .active)
      (howner : lease.owner = owner) :
      Effect s (.releaseLease leaseId owner now) (s.release leaseId lease.workId t)
  | expireLeases {runId : Option Uuid} {now : Time} :
      Effect s (.expireLeases runId now) (s.sweep now runId)

variable {s s' : OperationalStore} {β : Type} {op : StoreOp β} {clock : Time}

lemma commit_cases {α : Type} (s : OperationalStore) (r : Except StoreError (Committed α)) :
    (commit s r).2 = s ∨ ∃ a, r = .ok (a, (commit s r).2) := by
  rcases r with e | ⟨a, s'⟩
  · exact .inl rfl
  · exact .inr ⟨a, rfl⟩

lemma commitAnswer_cases {α : Type} (s : OperationalStore)
    (r : Except StoreError (Committed (Except StoreError α))) :
    (commitAnswer s r).2 = s ∨ ∃ a, r = .ok (a, (commitAnswer s r).2) := by
  rcases r with e | ⟨a, s'⟩
  · exact .inl rfl
  · exact .inr ⟨a, rfl⟩

lemma effect_of_commit {α : Type} {op : StoreOp β} {r : Except StoreError (Committed α)}
    (h : ∀ a s', r = .ok (a, s') → Effect s op s') : Effect s op (commit s r).2 := by
  rcases commit_cases s r with hr | ⟨a, hr⟩
  · rw [hr]; exact .unchanged
  · exact h a _ hr

/-- An operation does nothing but its effects. -/
theorem exec_effect (clock : Time) (op : StoreOp β) (s : OperationalStore) :
    Effect s op (op.exec clock s).2 := by
  cases op with
  | read query => exact .unchanged
  | createRun runId specRef status now =>
    refine effect_of_commit fun r s' h => ?_
    rcases createRun_ok h with rfl | ⟨hnew, hid, -, rfl⟩
    · exact .unchanged
    · exact .createRun hnew hid
  | updateRun runId status now =>
    refine effect_of_commit fun r s' h => ?_
    rw [updateRun_ok h]
    exact .updateRun _
  | requestCancellation runId trialId now =>
    refine effect_of_commit fun r s' h => ?_
    obtain ⟨run, hrun, ⟨-, rfl⟩ | ⟨hopen, cancelled, hc, rfl⟩⟩ := requestCancellation_ok h
    · exact .unchanged
    · exact .requestCancellation hrun hopen hc
  | putPlan planId runId planRef state now =>
    refine effect_of_commit fun p s' h => ?_
    rcases putPlan_ok h with rfl | ⟨hnew, hrun, hid, hp, hstate, rfl⟩
    · exact .unchanged
    · exact .putPlan hnew hrun hid hp hstate
  | updatePlan planId state now =>
    refine effect_of_commit fun p s' h => ?_
    rw [updatePlan_ok h]
    exact .updatePlan _
  | putPlannedTrial trialId planId runId ordinal state now =>
    refine effect_of_commit fun t s' h => ?_
    rcases putPlannedTrial_ok h with rfl | ⟨hnew, -, hplan, hid, htp, htr, rfl⟩
    · exact .unchanged
    · exact .putPlannedTrial hnew hplan hid htp htr
  | updatePlannedTrial trialId state now =>
    refine effect_of_commit fun t s' h => ?_
    rw [updatePlannedTrial_ok h]
    exact .updatePlannedTrial _
  | completePlanIfTerminal planId runId now =>
    refine effect_of_commit fun a s' h => ?_
    rcases completePlanIfTerminal_ok h with rfl | ⟨run, hrun, hcomplete, rfl⟩
    · exact .unchanged
    · exact .completePlanIfTerminal hrun hcomplete
  | createWorkItem item now =>
    refine effect_of_commit fun w s' h => ?_
    rcases createWorkItem_ok h with rfl | ⟨hnew, -, htrial, hplan, hfree, hw, rfl⟩
    · exact .unchanged
    · exact .createWorkItem hnew htrial hplan hfree hw
  | updateWorkItem workId state availableAt now =>
    refine effect_of_commit fun w s' h => ?_
    rw [(updateWorkItem_ok h).2]
    exact .updateWorkItem _
  | scheduleRetry workId availableAt now =>
    refine effect_of_commit fun w s' h => ?_
    obtain ⟨item, run, hitem, hrun, hopen, rfl⟩ := scheduleRetry_ok h
    exact .scheduleRetry hitem hrun hopen
  | createAttempt attemptId workId trialId attemptNumber candidateIndex retryNumber leaseId state
      now =>
    refine effect_of_commit fun a s' h => ?_
    rcases createAttempt_ok h with rfl | ⟨item, hitem, hlease, ha, hins⟩
    · exact .unchanged
    · obtain ⟨hnew, hfree, rfl⟩ := insertAttempt_ok hins
      exact .createAttempt hitem hlease ha hnew hfree
  | createAttemptForLease workId trialId leaseId candidateIndex retryNumber now =>
    refine effect_of_commit fun a s' h => ?_
    obtain ⟨item, lease, hitem, hlease, hwork, hactive, ha, hins⟩ := createAttemptForLease_ok h
    obtain ⟨hnew, hfree, rfl⟩ := insertAttempt_ok hins
    exact .createAttemptForLease hitem hlease hwork hactive ha hnew hfree
  | transitionAttempt attemptId state failure reconciliationState cancellationStatus now =>
    refine effect_of_commit fun a s' h => ?_
    rw [(transitionAttempt_ok h).2]
    exact .transitionAttempt _
  | recordBackendSubmission submissionId attemptId backend externalId externalWorkId state now =>
    refine effect_of_commit fun b s' h => ?_
    rcases recordBackendSubmission_ok h with rfl | ⟨hnew, hattempt, hid, hb, rfl⟩
    · exact .unchanged
    · exact .recordBackendSubmission hnew hattempt hid hb
  | transitionBackendSubmission submissionId state cancellationStatus reconciliationState now =>
    refine effect_of_commit fun b s' h => ?_
    rw [transitionBackendSubmission_ok h]
    exact .transitionBackendSubmission _
  | bindBackendSubmissionExternalIds submissionId externalId externalWorkId now =>
    refine effect_of_commit fun b s' h => ?_
    rw [bindBackendSubmissionExternalIds_ok h]
    exact .bindBackendSubmissionExternalIds _
  | leaseNextWorkItem request =>
    refine effect_of_commit fun a s' h => ?_
    obtain ⟨-, ⟨-, rfl⟩ | ⟨candidate, _, hselect, rfl, hgrant, rfl, -⟩⟩ := leaseNextWorkItem_ok h
    · exact .sweepOnly
    · exact .leaseNextWorkItem hselect hgrant
  | acquireLease workId owner now ttl leaseId =>
    rcases commitAnswer_cases s (s.acquireLease workId owner now ttl leaseId) with h | ⟨a, h⟩
    · simp only [exec, h]; exact .unchanged
    · rcases acquireLease_ok h with hs | ⟨_, item, rfl, hitem, ⟨existing, hmem, -, hactive, hended,
        hgrant, hs⟩ | ⟨hqueued, hgrant, hs⟩⟩
      all_goals simp only [exec, hs]
      · exact .acquireSweep
      · exact .acquireEnded hitem hmem hactive hended hgrant
      · exact .acquireQueued hitem hqueued hgrant
  | renewLease leaseId owner now ttl =>
    refine effect_of_commit fun l s' h => ?_
    rw [renewLease_ok h]
    exact .renewLease
  | releaseLease leaseId owner now =>
    refine effect_of_commit fun l s' h => ?_
    obtain ⟨lease, hlease, hactive, howner, rfl⟩ := releaseLease_ok h
    exact .releaseLease _ hlease hactive howner
  | expireLeases runId now => exact .expireLeases

end StoreOp

/-- The operations as atomic steps on a shared database; the input of a step is the clock. -/
def OperationalStore.semantics : Program.Semantics StoreOp StoreError Time OperationalStore where
  act op clock s := op.exec clock s

@[simp] lemma OperationalStore.semantics_act {β : Type} (op : StoreOp β) (clock : Time)
    (s : OperationalStore) : OperationalStore.semantics.act op clock s = op.exec clock s := rfl

/-! ## A run with one work item -/

/-- The run, the plan and the planned trial of a work item are created, then the item. -/
def enqueueItem {Site : Type} (item : WorkItemIdentity) (now : Time) :
    List (Program.PoolEvent Site StoreOp StoreError Time) :=
  [.direct (.createRun item.runId "runs/spec.json" .ready none) now,
    .direct (.putPlan item.planId item.runId "runs/plan.json" .ready none) now,
    .direct (.putPlannedTrial item.trialId item.planId item.runId item.ordinal .planned none) now,
    .direct (.createWorkItem item none) now]

/-- A policy that retries one kind of failure once. -/
def RetryPolicy.retryOnce : RetryPolicy where
  maximumAttempts := 2
  retryableFailureKinds := [.workerLostBeforeSubmission]
  backoffSeconds := 0
  maximumElapsedSeconds := none
  unknownStatePolicy := .reconcileBeforeRetry
  maximumAttempts_pos := by decide
  maximumElapsed_pos := RetryPolicy.default.maximumElapsed_pos
  kinds_nodup := by simp
  kinds_infrastructure := by simp [failureClassForKind]
  single_attempt := by simp

/-- A work item of run 1, plan 2 and trial 3. -/
def sampleItem (retryPolicy : RetryPolicy) : WorkItemIdentity where
  workId := 4
  workKey := "trial-1"
  runId := 1
  trialId := 3
  kind := "trial"
  priority := 0
  planId := 2
  ordinal := 1
  executionFamily := "agent"
  backend := "local"
  providerRoute := "route"
  modelRoute := "model"
  resourceClass := "small"
  availableAt := 0
  retryPolicy := retryPolicy

end AecBench.Execution
