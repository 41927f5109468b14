import AecBench.Execution.Scheduler

/-!
# The calls of the scheduler

Which operations the programs of the scheduler can call, and from where. A part of a method
calls the store only from its own site, and no method creates a work item or writes `queued` to
one: work returns to the queue only through the operations of the store that do so themselves.

## Main definitions

* `Pass` — a call of a public method of the scheduler; `Pass.program` — its program.
* `CallAt` — a call from a site of an operation that does not enqueue.
* `Site.index?` — the future of a pass that a call handles.

## Main results

* `LocalScheduler.runRounds_issues` — the completions handled are of pending futures.
* `LocalScheduler.dispatchOnce_propagates` — a retry that is refused ends the pass.
* `Pass.program_issues` — no pass calls an operation that enqueues.
-/

namespace AecBench.Execution

open OperationalStore Program

/-- The position of the future whose completion the call handles. -/
def Site.index? : Site → Option ℕ
  | .completionRead index _ _ => some index
  | .completion index _ _ => some index
  | _ => none

/-- A call from the given site of an operation that does not enqueue. -/
def CallAt (site : Site) : ∀ β, Site → StoreOp β → Prop :=
  fun _ site' op => site' = site ∧ ¬ op.Enqueues

/-- The work item for which the operation schedules a retry. -/
def StoreOp.retries? : ∀ {β : Type}, StoreOp β → Option Uuid
  | _, .scheduleRetry workId _ _ => some workId
  | _, _ => none

/-- The operation schedules a retry. -/
def StoreOp.Retries (β : Type) (op : StoreOp β) : Prop := op.retries?.isSome = true

@[simp] lemma issues_ofExcept {α : Type} {P : ∀ β, Site → StoreOp β → Prop}
    (x : Except StoreError α) : (SchedulerProgram.ofExcept x).Issues P := by
  cases x <;> trivial

lemma OutcomeState.toWorkItem_ne_queued (state : OutcomeState) : state.toWorkItem ≠ .queued := by
  cases state <;> simp [OutcomeState.toWorkItem]

namespace LocalScheduler

variable {site : Site} {owner : String} {now : Time} {counts : Counts} {running : RunningItem}

/-! ## Completions -/

variable {item : WorkItemRecord} {failure : FailureClassification}

lemma scheduleRetry_issues {afterUnknown : Bool} :
    (scheduleRetry site item failure now afterUnknown).Issues (CallAt site) := by
  unfold scheduleRetry
  split_ifs
  · trivial
  · trivial
  · simp only [issues_perform_bind]
    refine ⟨⟨rfl, id⟩, fun attempts => ?_⟩
    split_ifs
    · trivial
    · refine (issues_ofExcept _).bind fun exceeded => ?_
      split_ifs
      · trivial
      · simp only [issues_perform_bind]
        exact ⟨⟨rfl, id⟩, fun _ => trivial⟩

lemma markUnknown_issues : (markUnknown site running failure).Issues (CallAt site) := by
  simp only [markUnknown, issues_perform_bind]
  exact ⟨⟨rfl, id⟩, fun _ => ⟨⟨rfl, id⟩, fun _ => ⟨⟨rfl, by simp [StoreOp.Enqueues]⟩,
    fun _ => trivial⟩⟩⟩

lemma recordRaised_issues : (recordRaised site now running counts).Issues (CallAt site) := by
  simp only [recordRaised, issues_perform_bind]
  refine ⟨⟨rfl, id⟩, fun currentAttempt => ⟨⟨rfl, id⟩, fun submissions => ⟨⟨rfl, id⟩, fun _ =>
    ⟨⟨rfl, id⟩, fun _ => ⟨⟨rfl, OutcomeState.toWorkItem_ne_queued _⟩, fun _ => ?_⟩⟩⟩⟩⟩
  split_ifs
  · trivial
  · refine scheduleRetry_issues.bind fun retried => ?_
    split_ifs <;> trivial

variable {outcome : WorkerOutcome}

lemma recordAttempt_issues : (recordAttempt site running outcome).Issues (CallAt site) := by
  unfold recordAttempt
  split
  · trivial
  · split_ifs
    · simp only [issues_perform_bind]
      exact ⟨⟨rfl, id⟩, fun _ => trivial⟩
    · trivial

lemma recordFailed_issues :
    (recordFailed site now running outcome counts).Issues (CallAt site) := by
  unfold recordFailed
  split
  · refine scheduleRetry_issues.bind fun retried => ?_
    split_ifs <;> trivial
  · trivial

lemma recordOutcome_issues :
    (recordOutcome site now running outcome counts).Issues (CallAt site) := by
  refine recordAttempt_issues.bind fun _ => ?_
  simp only [issues_perform_bind]
  refine ⟨⟨rfl, id⟩, fun _ => ⟨⟨rfl, OutcomeState.toWorkItem_ne_queued _⟩, fun _ => ?_⟩⟩
  split
  · trivial
  · exact recordFailed_issues
  · trivial

lemma recordReturned_issues : (recordReturned site running counts).Issues (CallAt site) := by
  simp only [recordReturned, issues_perform_bind]
  exact ⟨⟨rfl, id⟩, fun _ => ⟨⟨rfl, id⟩, fun _ => ⟨⟨rfl, by simp [StoreOp.Enqueues]⟩,
    fun _ => trivial⟩⟩⟩

variable {result : WorkerResult}

lemma recordResult_issues : (recordResult site now running result counts).Issues (CallAt site) := by
  cases result with
  | raised => exact recordRaised_issues
  | outcome outcome => exact recordOutcome_issues
  | returned => exact recordReturned_issues

lemma releaseRecorded_issues :
    (releaseRecorded site owner running counts).Issues (CallAt site) := by
  simp only [releaseRecorded, issues_attempt_bind]
  refine ⟨⟨rfl, id⟩, fun r => ?_⟩
  split
  · trivial
  · split_ifs
    · simp only [issues_perform_bind]
      exact ⟨⟨rfl, id⟩, fun item => markUnknown_issues.bind fun _ => trivial⟩
    · trivial

lemma releaseQuietly_issues {leaseId : Uuid} :
    (releaseQuietly site owner leaseId).Issues (CallAt site) := by
  simp only [releaseQuietly, issues_attempt_bind]
  refine ⟨⟨rfl, id⟩, fun r => ?_⟩
  split
  · trivial
  · split_ifs <;> trivial

variable {lost : Bool}

lemma recordCompletion_issues :
    (recordCompletion site owner now running lost result counts).Issues (CallAt site) := by
  unfold recordCompletion
  split_ifs
  · exact markUnknown_issues.bind fun _ => trivial
  · exact recordResult_issues.bind fun recorded => releaseRecorded_issues

lemma settleCompletion_issues :
    (settleCompletion site owner now running lost result counts).Issues (CallAt site) := by
  refine recordCompletion_issues.bind fun counts => ?_
  simp only [issues_perform_bind]
  exact ⟨⟨rfl, id⟩, fun _ => trivial⟩

lemma handleCompletion_issues {index : ℕ} :
    (handleCompletion owner now index running lost result counts).Issues
      fun _ site op => site.index? = some index ∧ ¬ op.Enqueues := by
  have hsite {α : Type} {p : SchedulerProgram α}
      (hp : p.Issues (CallAt (.completion index running.lease.leaseId running.workItem.workId))) :
      p.Issues fun _ site op => site.index? = some index ∧ ¬ op.Enqueues :=
    hp.mono fun _ _ _ h => ⟨by rw [h.1]; rfl, h.2⟩
  simp only [handleCompletion, issues_perform_bind]
  refine ⟨⟨rfl, id⟩, fun current => ?_⟩
  split_ifs
  · exact (hsite releaseQuietly_issues).bind fun _ => trivial
  · exact (hsite releaseQuietly_issues).bind fun _ => trivial
  · exact hsite settleCompletion_issues

variable {items : List RunningItem} {waiting : Waiting} {futures : List (ℕ × WorkerResult)}

lemma handleDone_issues :
    (handleDone owner now items futures waiting).Issues
      fun _ site op => (∃ k ∈ waiting.pending, site.index? = some k) ∧ ¬ op.Enqueues := by
  induction futures generalizing waiting with
  | nil => trivial
  | cons future futures ih =>
    obtain ⟨index, result⟩ := future
    simp only [handleDone]
    split
    · exact ih
    · split_ifs with hpending
      · refine Issues.bind ?_ fun counts => ?_
        · exact handleCompletion_issues.mono fun _ _ _ h => ⟨⟨index, hpending, h.1⟩, h.2⟩
        · refine ih.mono fun _ _ _ ⟨⟨k, hk, hsite⟩, hop⟩ => ⟨⟨k, ?_, hsite⟩, hop⟩
          exact List.mem_of_mem_erase hk
      · exact ih

lemma handleDone_yields :
    (handleDone owner now items futures waiting).Yields
      fun waiting' => waiting'.pending.Sublist waiting.pending := by
  induction futures generalizing waiting with
  | nil => exact .refl _
  | cons future futures ih =>
    obtain ⟨index, result⟩ := future
    simp only [handleDone]
    split
    · exact ih
    · split_ifs with hpending
      · refine (Yields.trivial _).bind fun counts _ => ih.mono fun waiting' h => ?_
        exact h.trans List.erase_sublist
      · exact ih

/-! ## Rounds and passes -/

variable {policy : ExecutionPolicy}

lemma renewLeases_issues {heartbeatNow : Time} {pending : List ℕ} {lost : List Uuid} :
    (renewLeases policy owner heartbeatNow items pending lost).Issues (CallAt .heartbeat) := by
  induction pending generalizing lost with
  | nil => trivial
  | cons index pending ih =>
    simp only [renewLeases]
    split
    · exact ih
    · split_ifs
      · exact ih
      · simp only [issues_attempt_bind]
        refine ⟨⟨rfl, id⟩, fun r => ?_⟩
        split
        · exact ih
        · split_ifs
          · exact ih
          · trivial

lemma leaseBatch_issues {n : ℕ} : (leaseBatch policy owner now n).Issues (CallAt .leasing) := by
  induction n with
  | zero => trivial
  | succ n ih =>
    simp only [leaseBatch, issues_perform_bind]
    refine ⟨⟨rfl, id⟩, fun selected => ?_⟩
    split
    · trivial
    · exact ih.bind fun rest => trivial

lemma updateRuns_issues {runIds : List Uuid} :
    (updateRuns now runIds).Issues (CallAt .starting) := by
  induction runIds with
  | nil => trivial
  | cons runId runIds ih =>
    simp only [updateRuns, issues_perform_bind]
    exact ⟨⟨rfl, id⟩, fun _ => ih⟩

lemma updatePlans_issues {planIds : List Uuid} :
    (updatePlans now planIds).Issues (CallAt .starting) := by
  induction planIds with
  | nil => trivial
  | cons planId planIds ih =>
    simp only [updatePlans, issues_perform_bind]
    exact ⟨⟨rfl, id⟩, fun _ => ih⟩

lemma startItem_issues {workItem : WorkItemRecord} {lease : LeaseRecord} :
    (startItem now workItem lease).Issues (CallAt .starting) := by
  simp only [startItem, issues_perform_bind]
  exact ⟨⟨rfl, id⟩, fun _ => ⟨⟨rfl, id⟩, fun _ => ⟨⟨rfl, by simp [StoreOp.Enqueues]⟩, fun _ =>
    ⟨⟨rfl, id⟩, fun _ => ⟨⟨rfl, id⟩, fun _ => trivial⟩⟩⟩⟩⟩

variable {leased : List (WorkItemRecord × LeaseRecord)}

lemma startItems_issues : (startItems now leased).Issues (CallAt .starting) := by
  induction leased with
  | nil => trivial
  | cons selected leased ih =>
    exact startItem_issues.bind fun running => ih.bind fun rest => trivial

lemma startBatch_issues : (startBatch now leased).Issues (CallAt .starting) :=
  updateRuns_issues.bind fun _ => updatePlans_issues.bind fun _ => startItems_issues

lemma runRound_issues {round : Round} :
    (runRound policy owner now items round waiting).Issues fun _ site op =>
      (∀ k, site.index? = some k → k ∈ waiting.pending) ∧ ¬ op.Enqueues := by
  refine Issues.bind ?_ fun waiting' => ?_
  · refine handleDone_issues.mono fun _ _ _ ⟨⟨k, hk, hsite⟩, hop⟩ => ⟨fun k' hk' => ?_, hop⟩
    rw [hsite] at hk'
    exact Option.some.inj hk' ▸ hk
  · split_ifs
    · trivial
    · refine (renewLeases_issues.mono fun _ _ _ h => ⟨fun k hk => ?_, h.2⟩).bind fun lost => trivial
      rw [h.1] at hk
      cases hk

lemma runRound_yields {round : Round} :
    (runRound policy owner now items round waiting).Yields
      fun waiting' => waiting'.pending.Sublist waiting.pending := by
  refine handleDone_yields.bind fun waiting' h => ?_
  split_ifs
  · exact h
  · exact (Yields.trivial _).bind fun lost _ => h

variable {rounds : List Round}

lemma runRounds_issues :
    (runRounds policy owner now items rounds waiting).Issues fun _ site op =>
      (∀ k, site.index? = some k → k ∈ waiting.pending) ∧ ¬ op.Enqueues := by
  induction rounds generalizing waiting with
  | nil => trivial
  | cons round rounds ih =>
    unfold runRounds
    split_ifs
    · trivial
    · refine runRound_issues.bind_yields runRound_yields fun waiting' hsub => ?_
      exact ih.mono fun _ _ _ h => ⟨fun k hk => hsub.subset (h.1 k hk), h.2⟩

/-! ## Reconciliation and cancellation -/

lemma recordReconciled_issues {attempt : AttemptRecord} :
    (recordReconciled now item attempt outcome counts).Issues (CallAt .reconciling) := by
  simp only [recordReconciled, issues_perform_bind]
  refine ⟨⟨rfl, id⟩, fun _ => ⟨⟨rfl, id⟩, fun _ =>
    ⟨⟨rfl, OutcomeState.toWorkItem_ne_queued _⟩, fun _ => ?_⟩⟩⟩
  refine Issues.bind ?_ fun retried => ?_
  · unfold retryReconciled
    split
    · exact scheduleRetry_issues
    · trivial
  · split_ifs
    · trivial
    · simp only [issues_perform_bind]
      exact ⟨⟨rfl, id⟩, fun _ => trivial⟩

variable {backends : String → Option ExecutionBackendControl}

lemma reconcileItem_issues :
    (reconcileItem backends now item counts).Issues (CallAt .reconciling) := by
  unfold reconcileItem
  split_ifs
  · trivial
  · simp only [issues_perform_bind]
    refine ⟨⟨rfl, id⟩, fun attempts => ?_⟩
    split
    · trivial
    · simp only [issues_perform_bind]
      refine ⟨⟨rfl, id⟩, fun submissions => ?_⟩
      split
      · split
        · trivial
        · split_ifs
          · trivial
          · exact recordReconciled_issues
      · trivial

lemma reconcileItems_issues {items : List WorkItemRecord} :
    (reconcileItems backends now items counts).Issues (CallAt .reconciling) := by
  induction items generalizing counts with
  | nil => trivial
  | cons item items ih => exact reconcileItem_issues.bind fun counts => ih

lemma recordCancellation_issues {attempt : AttemptRecord}
    {submission : Option BackendSubmissionRecord} {result : BackendCancellationResult} :
    (recordCancellation now item attempt submission result counts).Issues
      (CallAt .cancelling) := by
  have htransition {state : BackendSubmissionState} {status : CancellationStatus}
      {reconciliation : Option ReconciliationState} :
      (transitionSubmission now submission state status reconciliation).Issues
        (CallAt .cancelling) := by
    unfold transitionSubmission
    split
    · trivial
    · simp only [issues_perform_bind]
      exact ⟨⟨rfl, id⟩, fun _ => trivial⟩
  unfold recordCancellation
  split_ifs
  · refine Issues.bind ?_ fun _ => trivial
    simp only [recordCancelled, issues_perform_bind]
    refine ⟨⟨rfl, id⟩, fun _ => htransition.bind fun _ => ?_⟩
    simp only [issues_perform_bind]
    exact ⟨⟨rfl, by simp [StoreOp.Enqueues]⟩, fun _ => ⟨⟨rfl, id⟩, fun _ => trivial⟩⟩
  · refine Issues.bind ?_ fun _ => trivial
    simp only [recordUncancelled, issues_perform_bind]
    refine ⟨⟨rfl, id⟩, fun _ => htransition.bind fun _ => ?_⟩
    simp only [issues_perform_bind]
    exact ⟨⟨rfl, by simp [StoreOp.Enqueues]⟩, fun _ => ⟨⟨rfl, id⟩, fun _ => trivial⟩⟩

variable {runId : Uuid}

lemma releaseActive_issues : (releaseActive runId owner now item).Issues (CallAt .cancelling) := by
  simp only [releaseActive, issues_attempt_bind]
  refine ⟨⟨rfl, id⟩, fun r => ?_⟩
  split
  · split_ifs <;> trivial
  · split
    · trivial
    · simp only [issues_attempt_bind]
      refine ⟨⟨rfl, id⟩, fun r => ?_⟩
      split
      · trivial
      · split_ifs <;> trivial

lemma cancelItem_issues :
    (cancelItem runId owner backends now item counts).Issues (CallAt .cancelling) := by
  unfold cancelItem
  split_ifs
  · trivial
  · simp only [issues_perform_bind]
    refine ⟨⟨rfl, id⟩, fun attempts => ?_⟩
    split
    · trivial
    · simp only [issues_perform_bind]
      refine ⟨⟨rfl, id⟩, fun submissions => (issues_ofExcept _).bind fun result =>
        recordCancellation_issues.bind fun counts => ?_⟩
      simp only [issues_perform_bind]
      exact ⟨⟨rfl, id⟩, fun _ => releaseActive_issues.bind fun _ => trivial⟩

lemma cancelItems_issues {items : List WorkItemRecord} :
    (cancelItems runId owner backends now items counts).Issues (CallAt .cancelling) := by
  induction items generalizing counts with
  | nil => trivial
  | cons item items ih => exact cancelItem_issues.bind fun counts => ih

/-! ## Retries that are refused -/

@[simp] lemma ofExcept_propagates {α : Type} (x : Except StoreError α) :
    (SchedulerProgram.ofExcept x).Propagates StoreOp.Retries := by
  cases x <;> trivial

@[simp] lemma scheduleRetry_propagates {afterUnknown : Bool} :
    (scheduleRetry site item failure now afterUnknown).Propagates StoreOp.Retries := by
  unfold scheduleRetry
  split_ifs
  · trivial
  · trivial
  · simp only [propagates_perform_bind]
    intro attempts
    split_ifs
    · trivial
    · refine (ofExcept_propagates _).bind fun exceeded => ?_
      split_ifs <;> simp

@[simp] lemma markUnknown_propagates :
    (markUnknown site running failure).Propagates StoreOp.Retries := by
  simp [markUnknown]

lemma recordRaised_propagates :
    (recordRaised site now running counts).Propagates StoreOp.Retries := by
  simp only [recordRaised, propagates_perform_bind]
  intro currentAttempt submissions _ _ _
  split_ifs
  · trivial
  · exact scheduleRetry_propagates.bind fun retried => by split_ifs <;> trivial

lemma recordOutcome_propagates :
    (recordOutcome site now running outcome counts).Propagates StoreOp.Retries := by
  refine Propagates.bind ?_ fun _ => ?_
  · unfold recordAttempt
    split
    · trivial
    · split_ifs <;> simp
  · simp only [propagates_perform_bind]
    intro _ _
    split
    · trivial
    · unfold recordFailed
      split
      · exact scheduleRetry_propagates.bind fun retried => by split_ifs <;> trivial
      · trivial
    · trivial

lemma recordResult_propagates :
    (recordResult site now running result counts).Propagates StoreOp.Retries := by
  cases result with
  | raised => exact recordRaised_propagates
  | outcome outcome => exact recordOutcome_propagates
  | returned => simp [recordResult, recordReturned]

lemma releaseRecorded_propagates :
    (releaseRecorded site owner running counts).Propagates StoreOp.Retries := by
  refine propagates_attempt_bind Bool.false_ne_true fun r => ?_
  split
  · trivial
  · split_ifs
    · simp only [propagates_perform_bind]
      exact fun item => markUnknown_propagates.bind fun _ => trivial
    · trivial

lemma releaseQuietly_propagates {leaseId : Uuid} :
    (releaseQuietly site owner leaseId).Propagates StoreOp.Retries := by
  refine propagates_attempt_bind Bool.false_ne_true fun r => ?_
  split
  · trivial
  · split_ifs <;> trivial

lemma handleCompletion_propagates {index : ℕ} :
    (handleCompletion owner now index running lost result counts).Propagates
      StoreOp.Retries := by
  simp only [handleCompletion, propagates_perform_bind]
  intro current
  split_ifs
  · exact releaseQuietly_propagates.bind fun _ => trivial
  · exact releaseQuietly_propagates.bind fun _ => trivial
  · refine Propagates.bind ?_ fun counts => by simp
    unfold recordCompletion
    split_ifs
    · exact markUnknown_propagates.bind fun _ => trivial
    · exact recordResult_propagates.bind fun recorded => releaseRecorded_propagates

lemma handleDone_propagates :
    (handleDone owner now items futures waiting).Propagates StoreOp.Retries := by
  induction futures generalizing waiting with
  | nil => trivial
  | cons future futures ih =>
    obtain ⟨index, result⟩ := future
    simp only [handleDone]
    split
    · exact ih
    · split_ifs
      · exact handleCompletion_propagates.bind fun counts => ih
      · exact ih

lemma renewLeases_propagates {heartbeatNow : Time} {pending : List ℕ} {lost : List Uuid} :
    (renewLeases policy owner heartbeatNow items pending lost).Propagates StoreOp.Retries := by
  induction pending generalizing lost with
  | nil => trivial
  | cons index pending ih =>
    simp only [renewLeases]
    split
    · exact ih
    · split_ifs
      · exact ih
      · refine propagates_attempt_bind Bool.false_ne_true fun r => ?_
        split
        · exact ih
        · split_ifs
          · exact ih
          · trivial

lemma runRounds_propagates :
    (runRounds policy owner now items rounds waiting).Propagates StoreOp.Retries := by
  induction rounds generalizing waiting with
  | nil => trivial
  | cons round rounds ih =>
    unfold runRounds
    split_ifs
    · trivial
    · refine Propagates.bind ?_ fun waiting' => ih
      refine handleDone_propagates.bind fun waiting' => ?_
      split_ifs
      · trivial
      · exact renewLeases_propagates.bind fun lost => trivial

lemma leaseBatch_propagates {n : ℕ} :
    (leaseBatch policy owner now n).Propagates StoreOp.Retries := by
  induction n with
  | zero => trivial
  | succ n ih =>
    simp only [leaseBatch, propagates_perform_bind]
    intro selected
    split
    · trivial
    · exact ih.bind fun rest => trivial

lemma startBatch_propagates : (startBatch now leased).Propagates StoreOp.Retries := by
  have hruns (runIds : List Uuid) : (updateRuns now runIds).Propagates StoreOp.Retries := by
    induction runIds with
    | nil => trivial
    | cons runId runIds ih => simpa [updateRuns] using fun _ => ih
  have hplans (planIds : List Uuid) : (updatePlans now planIds).Propagates StoreOp.Retries := by
    induction planIds with
    | nil => trivial
    | cons planId planIds ih => simpa [updatePlans] using fun _ => ih
  have hitems (leased : List (WorkItemRecord × LeaseRecord)) :
      (startItems now leased).Propagates StoreOp.Retries := by
    induction leased with
    | nil => trivial
    | cons selected leased ih =>
      exact Propagates.bind (by simp [startItem]) fun running => ih.bind fun rest => trivial
  exact (hruns _).bind fun _ => (hplans _).bind fun _ => hitems leased

lemma dispatchOnce_propagates :
    (dispatchOnce policy owner now rounds).Propagates StoreOp.Retries := by
  refine leaseBatch_propagates.bind fun leased => ?_
  split_ifs
  · simp only [propagates_perform_bind]
    exact fun _ => (ofExcept_propagates _).bind fun report => trivial
  · refine startBatch_propagates.bind fun items => runRounds_propagates.bind fun o => ?_
    split
    · trivial
    · exact (ofExcept_propagates _).bind fun report => trivial

end LocalScheduler

/-! ## Passes -/

open LocalScheduler

/-- A call of a public method of the scheduler, with what it learns from outside. -/
inductive Pass
  | dispatchOnce (policy : ExecutionPolicy) (owner : String) (now : Time) (rounds : List Round)
  | reconcileUnknown (runId : Uuid) (backends : String → Option ExecutionBackendControl)
      (now : Time)
  | cancelActive (runId : Uuid) (owner : String)
      (backends : String → Option ExecutionBackendControl) (now : Time)

namespace Pass

/-- The program of a pass; its report is of no interest to the other programs. -/
def program : Pass → SchedulerProgram Unit
  | .dispatchOnce policy owner now rounds => do
    let _ ← LocalScheduler.dispatchOnce policy owner now rounds
    return ()
  | .reconcileUnknown runId backends now => do
    let _ ← LocalScheduler.reconcileUnknown runId backends now
    return ()
  | .cancelActive runId owner backends now => do
    let _ ← LocalScheduler.cancelActive runId owner backends now
    return ()

lemma dispatchOnce_issues {policy : ExecutionPolicy} {owner : String} {now : Time}
    {rounds : List Round} :
    (LocalScheduler.dispatchOnce policy owner now rounds).Issues
      fun _ _ op => ¬ op.Enqueues := by
  refine (leaseBatch_issues.mono fun _ _ _ h => h.2).bind fun leased => ?_
  split_ifs
  · simp only [issues_perform_bind]
    exact ⟨id, fun _ => (issues_ofExcept _).bind fun _ => trivial⟩
  · refine (startBatch_issues.mono fun _ _ _ h => h.2).bind fun running =>
      (runRounds_issues.mono fun _ _ _ h => h.2).bind fun waiting => ?_
    split
    · trivial
    · exact (issues_ofExcept _).bind fun _ => trivial

/-- No pass calls an operation that enqueues. -/
theorem program_issues (pass : Pass) : pass.program.Issues fun _ _ op => ¬ op.Enqueues := by
  cases pass with
  | dispatchOnce policy owner now rounds => exact dispatchOnce_issues.bind fun _ => trivial
  | reconcileUnknown runId backends now =>
    refine Issues.bind ?_ fun _ => trivial
    simp only [LocalScheduler.reconcileUnknown, issues_perform_bind]
    exact ⟨id, fun items => (reconcileItems_issues.mono fun _ _ _ h => h.2).bind fun counts =>
      issues_ofExcept _⟩
  | cancelActive runId owner backends now =>
    refine Issues.bind ?_ fun _ => trivial
    simp only [LocalScheduler.cancelActive, issues_perform_bind]
    exact ⟨id, fun run => ⟨id, fun items =>
      (cancelItems_issues.mono fun _ _ _ h => h.2).bind fun counts => issues_ofExcept _⟩⟩

end Pass

/-- Passes of schedulers that share a database. -/
abbrev SchedulerPool := Pool Site StoreOp StoreError OperationalStore

/-- A call of a pass, the start of one, or an operation of another user of the store. -/
abbrev SchedulerEvent := PoolEvent Site StoreOp StoreError Time

/-- Every program that is started is a pass. -/
def StartsPass : SchedulerEvent → Prop
  | .spawn program => ∃ pass : Pass, program = pass.program
  | _ => True

/-! ## Runs with one pass -/

/-- The policy of a pass with one worker. -/
def oneWorker : ExecutionPolicy := .ofConcurrency 1 (by decide)

/-- A dispatch pass for one work item, whose worker returns. -/
def onePass (owner : String) (now : Time) : SchedulerEvent :=
  .spawn (Pass.dispatchOnce oneWorker owner now [⟨[(0, .returned)], [], now⟩]).program

/-- Turns of a thread. -/
def turns (n i : ℕ) (input : Time) : List SchedulerEvent := List.replicate n (.turn i input)

/-- A pass that has leased and started a work item, and waits for its worker. -/
def startedRun (item : WorkItemIdentity) : List SchedulerEvent :=
  enqueueItem item 0 ++ onePass "first" 0 :: turns 8 0 0

lemma startedRun_startsPass (item : WorkItemIdentity) : ∀ e ∈ startedRun item, StartsPass e := by
  simp [startedRun, enqueueItem, onePass, turns, StartsPass]

end AecBench.Execution
