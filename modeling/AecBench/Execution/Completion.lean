import AecBench.Execution.SchedulerCalls
import AecBench.Execution.Operational.Transitions

/-!
# Completions among cancellation requests

What a dispatch pass does for one finished worker, when other users of the store only request
cancellations and the workers only record their submissions and the states of their attempts.
Every completion settles its work item and releases its lease, unless it schedules a retry in a
run whose cancellation was requested: that call is refused, and the refusal ends the pass.

## Main definitions

* `Concurrently` — what cancellation requests and workers do between two calls of a pass.
* `Disturbs` — what follows from it: leases stay, and work items are at most asked to stop;
  `Keeps` — leases stay.
* `Touches` — what the calls made for one work item and its lease do to the database.
* `RetriesOpen` — a retry is not scheduled in a run whose cancellation was requested.

## Main results

* `handleCompletion_settles` — a completion settles its work item and gives its lease back.
-/

namespace AecBench.Execution

open OperationalStore Program LocalScheduler

/-! ## Cancellation requests and workers -/

/-- The calls of workers and of users who cancel: cancellation requests, submissions, states of
attempts, and attempts of further candidates. -/
def StoreOp.ByWorker : ∀ {β : Type}, StoreOp β → Prop
  | _, .read _ => True
  | _, .requestCancellation _ _ _ => True
  | _, .createAttemptForLease _ _ _ candidateIndex _ _ => candidateIndex ≠ 1
  | _, .transitionAttempt _ _ _ _ _ _ => True
  | _, .recordBackendSubmission _ _ _ _ _ _ _ => True
  | _, .transitionBackendSubmission _ _ _ _ _ => True
  | _, .bindBackendSubmissionExternalIds _ _ _ _ => True
  | _, _ => False

/-- Any number of such calls. -/
inductive Concurrently : OperationalStore → OperationalStore → Prop
  | refl (s : OperationalStore) : Concurrently s s
  | call {s s' : OperationalStore} {β : Type} (h : Concurrently s s') (op : StoreOp β)
      (hop : op.ByWorker) (clock : Time) : Concurrently s (op.exec clock s').2

/-- Rows are kept, and leases stay as they are. -/
structure Keeps (s s' : OperationalStore) : Prop where
  wellFormed : s.WellFormed → s'.WellFormed
  extends_ : Extends s s'
  leases : s'.leases = s.leases

/-- Rows are kept, leases stay as they are, and work items are at most asked to stop. -/
structure Disturbs (s s' : OperationalStore) : Prop extends Keeps s s' where
  work : ∀ id, ∀ w ∈ s.workItem? id, ∃ w' ∈ s'.workItem? id,
    w'.state = w.state ∨ w'.state = cancelledState w.state

/-- The calls that leave leases alone and only ask work items to stop, if anything. -/
def StoreOp.Quiet : ∀ {β : Type}, StoreOp β → Prop
  | _, .updateWorkItem _ _ _ _ | _, .scheduleRetry _ _ _ | _, .leaseNextWorkItem _
  | _, .acquireLease _ _ _ _ _ | _, .renewLease _ _ _ _ | _, .releaseLease _ _ _
  | _, .expireLeases _ _ => False
  | _, _ => True

variable {β : Type}

lemma StoreOp.ByWorker.quiet {op : StoreOp β} (h : op.ByWorker) : op.Quiet := by
  cases op <;> trivial

lemma cancelledState_cancelledState (state : WorkItemState) :
    cancelledState (cancelledState state) = cancelledState state := by
  cases state <;> rfl

section Disturbance

variable {s s' s'' : OperationalStore}

protected lemma Keeps.refl (s : OperationalStore) : Keeps s s := ⟨id, .refl s, rfl⟩

protected lemma Keeps.trans (h : Keeps s s') (h' : Keeps s' s'') : Keeps s s'' :=
  ⟨h'.wellFormed ∘ h.wellFormed, h.extends_.trans h'.extends_, h'.leases.trans h.leases⟩

protected lemma Disturbs.refl (s : OperationalStore) : Disturbs s s :=
  ⟨.refl s, fun _ w hw => ⟨w, hw, .inl rfl⟩⟩

protected lemma Disturbs.trans (h : Disturbs s s') (h' : Disturbs s' s'') : Disturbs s s'' where
  toKeeps := h.toKeeps.trans h'.toKeeps
  work id w hw := by
    obtain ⟨w', hw', hstate⟩ := h.work id w hw
    obtain ⟨w'', hw'', hstate'⟩ := h'.work id w' hw'
    refine ⟨w'', hw'', ?_⟩
    rcases hstate with hstate | hstate <;> rw [hstate] at hstate'
    · exact hstate'
    · rw [cancelledState_cancelledState] at hstate'
      exact .inr (or_self_iff.mp hstate')

lemma exec_disturbs (op : StoreOp β) (hop : op.Quiet) (clock : Time) (s : OperationalStore) :
    Disturbs s (op.exec clock s).2 where
  wellFormed := StoreOp.exec_wellFormed clock op
  extends_ := StoreOp.exec_extends clock op s
  leases := by
    have heffect := StoreOp.exec_effect clock op s
    generalize (op.exec clock s).2 = s' at heffect
    cases heffect with
    | @requestCancellation runId _ _ _ t cancelled _ _ hcancelled =>
      have hclosed : (cancelled.closeAfterCancellation runId t).leases = cancelled.leases := by
        unfold closeAfterCancellation
        dsimp only
        split_ifs <;> rfl
      rw [hclosed]
      rcases applyCancellation_ok hcancelled with ⟨-, rfl⟩ | ⟨_, _, -, -, -, rfl⟩ <;> rfl
    | completePlanIfTerminal =>
      unfold closePlan
      dsimp only
      split_ifs <;> rfl
    | updateWorkItem | scheduleRetry | sweepOnly | leaseNextWorkItem | acquireSweep
    | acquireQueued | acquireEnded | renewLease | releaseLease | expireLeases => exact hop.elim
    | _ => rfl
  work id w hw := by
    obtain ⟨w', hw', -, hmoves⟩ := StoreOp.exec_moves clock op hw
    refine ⟨w', hw', ?_⟩
    generalize w'.state = state at hmoves
    cases hmoves with
    | stays => exact .inl rfl
    | cancelled => exact .inr rfl
    | updated | retried | released => exact hop.elim
    | swept hsweeps => cases op <;> first | exact hop.elim | cases hsweeps
    | leased hgrants => cases op <;> first | exact hop.elim | cases hgrants

lemma Concurrently.disturbs (h : Concurrently s s') : Disturbs s s' := by
  induction h with
  | refl => exact .refl _
  | call _ op hop clock ih => exact ih.trans (exec_disturbs op hop.quiet clock _)

lemma Concurrently.attempts (h : Concurrently s s') {a' : AttemptRecord} (ha' : a' ∈ s'.attempts)
    (hfirst : a'.candidateIndex = 1) : ∃ a ∈ s.attempts, a.frozen = a'.frozen := by
  induction h generalizing a' with
  | refl => exact ⟨a', ha', rfl⟩
  | @call s' β h op hop clock ih =>
    have heffect := StoreOp.exec_effect clock op s'
    generalize (op.exec clock s').2 = s'' at heffect ha'
    have hupdated (hu : Updates s' s'') : ∃ a ∈ s.attempts, a.frozen = a'.frozen := by
      obtain ⟨a, ha, hf⟩ := Table.mem_of_map_eq hu.attempts ha'
      have hcandidate : a.candidateIndex = a'.candidateIndex :=
        WellFormed.column_eq _ (fun _ => by rfl) hf
      obtain ⟨a₀, ha₀, hf₀⟩ := ih ha (hcandidate.trans hfirst)
      exact ⟨a₀, ha₀, hf₀.trans hf⟩
    cases heffect with
    | unchanged => exact ih ha' hfirst
    | requestCancellation _ _ hcancelled =>
      exact hupdated ((Updates.applyCancellation hcancelled).trans (.closeAfterCancellation _ _ _))
    | createAttemptForLease _ _ _ _ ha =>
      rcases List.mem_append.mp ha' with ha' | ha'
      · exact ih ha' hfirst
      · rw [List.mem_singleton.mp ha', ha] at hfirst
        exact absurd hfirst hop
    | transitionAttempt t => exact hupdated (.setAttempts s' _ fun _ => by rfl)
    | recordBackendSubmission | transitionBackendSubmission | bindBackendSubmissionExternalIds =>
      exact ih ha' hfirst
    | _ => exact hop.elim

end Disturbance

/-! ## One work item and its lease -/

/-- Rows are kept, other leases stay as they are, and other work items are at most asked to
stop. -/
structure Touches (workId leaseId : Uuid) (s s' : OperationalStore) : Prop where
  wellFormed : s.WellFormed → s'.WellFormed
  extends_ : Extends s s'
  leases : ∀ id, id ≠ leaseId → s'.lease? id = s.lease? id
  work : ∀ id, id ≠ workId → ∀ w ∈ s.workItem? id, ∃ w' ∈ s'.workItem? id,
    w'.state = w.state ∨ w'.state = cancelledState w.state

/-- The states a completion may leave its work item in. -/
def settledState : WorkItemState → Bool
  | .succeeded | .failed | .cancelled | .unknown | .queued => true
  | _ => false

/-- The work item is in one of these states. -/
def Settled (workId : Uuid) (s : OperationalStore) : Prop :=
  ∃ w ∈ s.workItem? workId, settledState w.state = true

/-- The lease is active. -/
def Active (leaseId : Uuid) (s : OperationalStore) : Prop :=
  ∃ l ∈ s.lease? leaseId, l.state = .active

/-- The rows of a work item that a pass runs: its own, that of the attempt, and that of the
lease, which the owner of the pass holds. -/
structure Known (owner : String) (running : RunningItem) (s : OperationalStore) : Prop where
  work : ∃ w ∈ s.workItem? running.workItem.workId, w.frozen = running.workItem.frozen
  attempt : ∃ a ∈ s.attempt? running.attempt.attemptId, a.workId = running.workItem.workId
  lease : ∃ l ∈ s.lease? running.lease.leaseId,
    l.workId = running.workItem.workId ∧ l.owner = owner

section Item

variable {workId leaseId : Uuid} {s s' s'' : OperationalStore}

protected lemma Touches.refl (workId leaseId : Uuid) (s : OperationalStore) :
    Touches workId leaseId s s :=
  ⟨id, .refl s, fun _ _ => rfl, fun _ _ w hw => ⟨w, hw, .inl rfl⟩⟩

lemma Disturbs.touches (h : Disturbs s s') (workId leaseId : Uuid) :
    Touches workId leaseId s s' :=
  ⟨h.wellFormed, h.extends_, fun id _ => by rw [lease?, h.leases, lease?], fun id _ => h.work id⟩

protected lemma Touches.trans (h : Touches workId leaseId s s')
    (h' : Touches workId leaseId s' s'') : Touches workId leaseId s s'' where
  wellFormed := h'.wellFormed ∘ h.wellFormed
  extends_ := h.extends_.trans h'.extends_
  leases id hne := (h'.leases id hne).trans (h.leases id hne)
  work id hne w hw := by
    obtain ⟨w', hw', hstate⟩ := h.work id hne w hw
    obtain ⟨w'', hw'', hstate'⟩ := h'.work id hne w' hw'
    refine ⟨w'', hw'', ?_⟩
    rcases hstate with hstate | hstate <;> rw [hstate] at hstate'
    · exact hstate'
    · rw [cancelledState_cancelledState] at hstate'
      exact .inr (or_self_iff.mp hstate')

lemma Touches.exec (clock : Time) (op : StoreOp β)
    (hleases : ∀ id, id ≠ leaseId → (op.exec clock s).2.lease? id = s.lease? id)
    (hwork : ∀ id, id ≠ workId → (op.exec clock s).2.workItem? id = s.workItem? id) :
    Touches workId leaseId s (op.exec clock s).2 where
  wellFormed := StoreOp.exec_wellFormed clock op
  extends_ := StoreOp.exec_extends clock op s
  leases := hleases
  work id hne w hw := ⟨w, by rw [hwork id hne]; exact hw, .inl rfl⟩

lemma settledState_cancelledState {state : WorkItemState} (h : settledState state = true) :
    settledState (cancelledState state) = true := by
  cases state <;> first | rfl | cases h

lemma Settled.disturbs (h : Settled workId s) (hd : Disturbs s s') : Settled workId s' := by
  obtain ⟨w, hw, hstate⟩ := h
  obtain ⟨w', hw', hstate' | hstate'⟩ := hd.work workId w hw
  · exact ⟨w', hw', by rw [hstate']; exact hstate⟩
  · exact ⟨w', hw', by rw [hstate']; exact settledState_cancelledState hstate⟩

lemma Settled.touches {id : Uuid} (h : Settled id s) (ht : Touches workId leaseId s s')
    (hne : id ≠ workId) : Settled id s' := by
  obtain ⟨w, hw, hstate⟩ := h
  obtain ⟨w', hw', hstate' | hstate'⟩ := ht.work id hne w hw
  · exact ⟨w', hw', by rw [hstate']; exact hstate⟩
  · exact ⟨w', hw', by rw [hstate']; exact settledState_cancelledState hstate⟩

lemma Known.extends_ {owner : String} {running : RunningItem} (h : Known owner running s)
    (he : Extends s s') : Known owner running s' := by
  obtain ⟨⟨w, hw, hwf⟩, ⟨a, ha, hwork⟩, l, hl, hlwork, howner⟩ := h
  obtain ⟨w', hw', hwf'⟩ := he.workItem? hw
  obtain ⟨a', ha', haf⟩ := he.attempt? ha
  obtain ⟨l', hl', hlf⟩ := he.lease? hl
  refine ⟨⟨w', hw', hwf'.trans hwf⟩, ⟨a', ha', ?_⟩, l', hl', ?_, ?_⟩
  · exact (WellFormed.column_eq AttemptRecord.workId (fun _ => by rfl) haf).trans hwork
  · exact (WellFormed.column_eq LeaseRecord.workId (fun _ => by rfl) hlf).trans hlwork
  · exact (WellFormed.column_eq LeaseRecord.owner (fun _ => by rfl) hlf).trans howner

end Item

/-! ## Calls that succeed -/

section Succeeds

variable {s : OperationalStore} (clock : Time) {owner : String} {running : RunningItem}

lemma commit_ok {α : Type} {r : Except StoreError (Committed α)} {a : α} {s' : OperationalStore}
    (h : r = .ok (a, s')) : StoreOp.commit s r = (.ok a, s') := by
  rw [h]
  rfl

lemma commit_succeeds {α : Type} {r : Except StoreError (Committed α)} (h : r.isOk = true) :
    ∃ a, (StoreOp.commit s r).1 = .ok a := by
  cases r with
  | ok a => exact ⟨a.1, rfl⟩
  | error e => cases h

lemma Known.trial (hs : s.WellFormed) (h : Known owner running s) :
    ∃ trial, s.plannedTrial? running.workItem.trialId = some trial := by
  obtain ⟨w, hw, hf⟩ := h.work
  obtain ⟨⟨trial, htrial, -⟩, -⟩ := hs.rows_of_workItem hw
  rw [WellFormed.column_eq WorkItemRecord.trialId (fun _ => by rfl) hf] at htrial
  exact ⟨trial, htrial⟩

lemma Known.plan (hs : s.WellFormed) (h : Known owner running s) :
    ∃ plan, s.plan? running.workItem.planId = some plan ∧ plan.runId = running.workItem.runId := by
  obtain ⟨w, hw, hf⟩ := h.work
  obtain ⟨-, ⟨plan, hplan, hrun⟩, -⟩ := hs.rows_of_workItem hw
  rw [WellFormed.column_eq WorkItemRecord.planId (fun _ => by rfl) hf] at hplan
  exact ⟨plan, hplan, hrun.trans (WellFormed.column_eq _ (fun _ => by rfl) hf)⟩

lemma Known.run (hs : s.WellFormed) (h : Known owner running s) :
    ∃ run, s.run? running.workItem.runId = some run := by
  obtain ⟨w, hw, hf⟩ := h.work
  obtain ⟨-, -, run, hrun⟩ := hs.rows_of_workItem hw
  rw [WellFormed.column_eq WorkItemRecord.runId (fun _ => by rfl) hf] at hrun
  exact ⟨run, hrun⟩

lemma transitionAttempt_succeeds (h : Known owner running s) {state : AttemptState}
    {failure : Option FailureClassification} {reconciliation : Option ReconciliationState}
    {cancellation : Option CancellationStatus} {now : Option Time} :
    ∃ b, (StoreOp.exec clock (.transitionAttempt running.attempt.attemptId state failure
      reconciliation cancellation now) s).1 = .ok b := by
  obtain ⟨a, ha, -⟩ := h.attempt
  refine commit_succeeds ?_
  rw [transitionAttempt, requireAttempt, Option.mem_def.mp ha]
  rfl

lemma updatePlannedTrial_succeeds (hs : s.WellFormed) (h : Known owner running s)
    {state : TrialState} {now : Option Time} :
    ∃ b, (StoreOp.exec clock (.updatePlannedTrial running.workItem.trialId state now) s).1 =
      .ok b := by
  obtain ⟨trial, htrial⟩ := h.trial hs
  refine commit_succeeds ?_
  rw [updatePlannedTrial, requirePlannedTrial, htrial]
  rfl

lemma completePlanIfTerminal_succeeds (hs : s.WellFormed) (h : Known owner running s)
    {now : Option Time} :
    ∃ b, (StoreOp.exec clock (.completePlanIfTerminal running.workItem.planId
      running.workItem.runId now) s).1 = .ok b := by
  obtain ⟨plan, hplan, hrun⟩ := h.plan hs
  obtain ⟨run, hrunRow⟩ := h.run hs
  have hcloses := Extends.updates (Updates.closePlan s running.workItem.planId
    running.workItem.runId run (now.getD clock))
  obtain ⟨plan', hplan', -⟩ := hcloses.plan? hplan
  obtain ⟨run', hrun', -⟩ := hcloses.run? hrunRow
  by_cases hcomplete : s.scopeComplete (fun t => t.planId = running.workItem.planId)
      (fun w => w.planId = running.workItem.planId) = true
  · have hok : s.completePlanIfTerminal running.workItem.planId running.workItem.runId
        (now.getD clock) = .ok (some (plan', run'), s.closePlan running.workItem.planId
          running.workItem.runId run (now.getD clock)) := by
      simp only [completePlanIfTerminal, requirePlan, requireRun, bind_eq_ok, requireRow_eq_ok]
      refine ⟨plan, hplan, ?_⟩
      rw [if_neg (not_not.mpr hrun), if_pos hcomplete]
      simp only [bind_eq_ok, requireRow_eq_ok, pure_eq_ok]
      exact ⟨run, hrunRow, plan', hplan', run', hrun', rfl⟩
    exact ⟨_, congrArg Prod.fst (commit_ok hok)⟩
  · have hok : s.completePlanIfTerminal running.workItem.planId running.workItem.runId
        (now.getD clock) = .ok (none, s) := by
      simp only [completePlanIfTerminal, requirePlan, bind_eq_ok, requireRow_eq_ok]
      refine ⟨plan, hplan, ?_⟩
      rw [if_neg (not_not.mpr hrun), if_neg hcomplete]
      rfl
    exact ⟨_, congrArg Prod.fst (commit_ok hok)⟩

lemma updateWorkItem_succeeds (h : Known owner running s) (state : WorkItemState)
    (now : Option Time) :
    ∃ b s', StoreOp.exec clock (.updateWorkItem running.workItem.workId state none now) s =
        (.ok b, s') ∧ b.frozen = running.workItem.frozen ∧
      Touches running.workItem.workId running.lease.leaseId s s' ∧ s'.leases = s.leases ∧
      ∃ w ∈ s'.workItem? running.workItem.workId, w.state = state := by
  obtain ⟨w, hw, hf⟩ := h.work
  have hexec : StoreOp.exec clock (.updateWorkItem running.workItem.workId state none now) s =
      (.ok (WorkItemRecord.withState state none (now.getD clock) w),
        s.setWorkItems (fun w => w.workId = running.workItem.workId)
          (WorkItemRecord.withState state none (now.getD clock))) := by
    refine commit_ok ?_
    simp only [updateWorkItem, requireWorkItem, bind_eq_ok, requireRow_eq_ok]
    exact ⟨w, hw, by simp [pure, Except.pure]⟩
  refine ⟨_, _, hexec, hf, ?_, rfl, ?_⟩
  · have htouches : Touches running.workItem.workId running.lease.leaseId s
        (StoreOp.exec clock (.updateWorkItem running.workItem.workId state none now) s).2 := by
      refine .exec clock _ (fun id _ => by rw [hexec]; rfl) fun id hne => ?_
      rw [hexec]
      exact workItem?_setWorkItems_of_ne s (fun _ => by rfl) (fun _ h => h) hne
    rwa [hexec] at htouches
  · rw [workItem?_setWorkItems s (fun _ => by rfl), show s.workItem? running.workItem.workId =
      some w from hw, Option.map_some, if_pos (Table.mem_of_lookup hw).2]
    exact ⟨_, rfl, rfl⟩

/-- A retry is scheduled in a run that was not asked to stop: the work item is queued, if its
state allows a retry. -/
lemma scheduleRetry_succeeds (hs : s.WellFormed) {now availableAt : Time}
    (hnow : now ≤ availableAt) (hopen : ∀ w ∈ s.workItem? running.workItem.workId,
      ∀ run ∈ s.run? w.runId, run.cancellationRequestedAt = none)
    (hsettled : Settled running.workItem.workId s) :
    ∃ b s', StoreOp.exec clock (.scheduleRetry running.workItem.workId availableAt (some now)) s =
        (.ok b, s') ∧ Touches running.workItem.workId running.lease.leaseId s s' ∧
      s'.leases = s.leases ∧ Settled running.workItem.workId s' := by
  obtain ⟨w, hw, hstate⟩ := hsettled
  obtain ⟨-, -, run, hrun⟩ := hs.rows_of_workItem hw
  have hlook : (s.requeue running.workItem.workId w.trialId availableAt now).workItem?
      running.workItem.workId = some (if w.workId = running.workItem.workId ∧
        retryableState w.state = true then
          { w with state := .queued, availableAt := availableAt, updatedAt := now } else w) := by
    have hset := workItem?_setWorkItems s (p := fun w => w.workId = running.workItem.workId ∧
      retryableState w.state = true) (f := fun w =>
        { w with state := .queued, availableAt := availableAt, updatedAt := now })
      (fun _ => by rfl) running.workItem.workId
    rw [show s.workItem? running.workItem.workId = some w from hw] at hset
    exact hset
  have hexec : StoreOp.exec clock (.scheduleRetry running.workItem.workId availableAt (some now))
      s = (.ok (if w.workId = running.workItem.workId ∧ retryableState w.state = true then
        { w with state := .queued, availableAt := availableAt, updatedAt := now } else w),
        s.requeue running.workItem.workId w.trialId availableAt now) := by
    refine commit_ok ?_
    rw [Option.getD_some, OperationalStore.scheduleRetry, if_neg (not_lt.mpr hnow)]
    simp only [requireWorkItem, requireRun, bind_eq_ok, requireRow_eq_ok]
    refine ⟨w, hw, run, hrun, ?_⟩
    rw [if_neg (by rw [hopen w hw run hrun]; exact Bool.false_ne_true)]
    simp only [bind_eq_ok, requireRow_eq_ok, pure_eq_ok]
    exact ⟨_, hlook, rfl⟩
  refine ⟨_, _, hexec, ?_, rfl, _, hlook, ?_⟩
  · have htouches : Touches running.workItem.workId running.lease.leaseId s (StoreOp.exec clock
        (.scheduleRetry running.workItem.workId availableAt (some now)) s).2 := by
      refine .exec clock _ (fun id _ => by rw [hexec]; rfl) fun id hne => ?_
      rw [hexec]
      exact workItem?_setWorkItems_of_ne s (fun _ => by rfl) (fun _ h => h.1) hne
    rwa [hexec] at htouches
  · split_ifs
    · rfl
    · exact hstate

lemma releaseLease_succeeds (h : Known owner running s) (howner : isBlank owner = false)
    (hactive : Active running.lease.leaseId s) (hsettled : Settled running.workItem.workId s)
    (now : Option Time) :
    ∃ b s', StoreOp.exec clock (.releaseLease running.lease.leaseId owner now) s = (.ok b, s') ∧
      Touches running.workItem.workId running.lease.leaseId s s' ∧
      ¬ Active running.lease.leaseId s' ∧ Settled running.workItem.workId s' := by
  obtain ⟨l, hl, hwork, hown⟩ := h.lease
  have hl' : s.lease? running.lease.leaseId = some l := hl
  obtain ⟨l₀, hl₀, hstate⟩ := hactive
  obtain rfl : l = l₀ := Option.some.inj (hl'.symm.trans hl₀)
  obtain ⟨w, hw, hsettledState⟩ := hsettled
  have hexec : StoreOp.exec clock (.releaseLease running.lease.leaseId owner now) s =
      (.ok (LeaseRecord.released (now.getD clock) l),
        s.release running.lease.leaseId l.workId (now.getD clock)) := by
    refine commit_ok ?_
    simp only [releaseLease, requiredText, howner, requireLease, bind_eq_ok, requireRow_eq_ok]
    refine ⟨owner, rfl, l, hl', ?_⟩
    rw [if_neg (not_not.mpr hstate), if_neg (not_not.mpr hown)]
    rfl
  refine ⟨_, _, hexec, ?_, ?_, ?_⟩
  · have htouches : Touches running.workItem.workId running.lease.leaseId s
        (StoreOp.exec clock (.releaseLease running.lease.leaseId owner now) s).2 := by
      refine .exec clock _ (fun id hne => ?_) fun id hne => ?_
      · rw [hexec]
        exact lease?_setLeases_of_ne s (fun _ => by rfl) (fun _ h => h) hne
      · rw [hexec]
        exact workItem?_setWorkItems_of_ne _ (fun _ => by rfl) (fun _ h => h.1.trans hwork) hne
    rwa [hexec] at htouches
  · rintro ⟨l', hl', hactive'⟩
    have hlook : (s.release running.lease.leaseId l.workId (now.getD clock)).lease?
        running.lease.leaseId = some (LeaseRecord.released (now.getD clock) l) := by
      have hset := lease?_setLeases s (p := fun l => l.leaseId = running.lease.leaseId)
        (f := LeaseRecord.released (now.getD clock)) (fun _ => by rfl) running.lease.leaseId
      rw [show s.lease? running.lease.leaseId = some l from hl, Option.map_some,
        if_pos (Table.mem_of_lookup hl).2] at hset
      exact hset
    rw [hlook] at hl'
    obtain rfl := Option.some.inj hl'
    cases hactive'
  · have hlook := workItem?_setWorkItems (s.setLeases (fun l => l.leaseId = running.lease.leaseId)
      (LeaseRecord.released (now.getD clock))) (p := fun w => w.workId = l.workId ∧
        (w.state = .leased ∨ w.state = .running)) (f := fun w =>
          { w with state := .queued, updatedAt := now.getD clock }) (fun _ => by rfl)
      running.workItem.workId
    have hsame : (s.setLeases (fun l => l.leaseId = running.lease.leaseId)
        (LeaseRecord.released (now.getD clock))).workItem? running.workItem.workId = some w := hw
    rw [hsame, Option.map_some] at hlook
    refine ⟨_, hlook, ?_⟩
    split_ifs
    · rfl
    · exact hsettledState

lemma Known.listAttemptsForWork_ne_nil (h : Known owner running s) :
    s.listAttemptsForWork running.workItem.workId ≠ [] := by
  obtain ⟨a, ha, hwork⟩ := h.attempt
  refine List.ne_nil_of_mem (a := a) ?_
  rw [listAttemptsForWork, Table.mem_orderBy, List.mem_filter]
  exact ⟨(Table.mem_of_lookup ha).1, by simpa using hwork⟩

lemma elapsedExceeded_ok (policy : RetryPolicy) {attempts : List AttemptRecord} (now : Time)
    (h : attempts ≠ []) : ∃ b, elapsedExceeded policy attempts now = .ok b := by
  unfold elapsedExceeded
  split
  · exact ⟨_, rfl⟩
  · split
    · rename_i hmin
      rw [List.min?_eq_none_iff, List.map_eq_nil_iff] at hmin
      exact absurd hmin h
    · exact ⟨_, rfl⟩

end Succeeds

/-! ## Completions -/

/-- The assumption on the calls of a pass: a retry is scheduled only in a run whose cancellation
was not requested. -/
def RetriesOpen (β : Type) (op : StoreOp β) (s : OperationalStore) : Prop :=
  ∀ workId ∈ op.retries?, ∀ w ∈ s.workItem? workId, ∀ run ∈ s.run? w.runId,
    run.cancellationRequestedAt = none

instance decidableRetriesOpen (β : Type) (op : StoreOp β) (s : OperationalStore) :
    Decidable (RetriesOpen β op s) := by unfold RetriesOpen; infer_instance

/-- A part of a pass that runs among cancellation requests and workers, and does not fail. -/
def PassTriple {α : Type} (P : OperationalStore → Prop) (p : SchedulerProgram α)
    (Q : α → OperationalStore → Prop) : Prop :=
  Triple semantics Concurrently RetriesOpen P p Q fun _ _ => False

variable {P : OperationalStore → Prop}

lemma stable_of_disturbs (hP : ∀ s s', Disturbs s s' → P s → P s') : Stable Concurrently P :=
  fun s s' h => hP s s' h.disturbs

lemma quiet_succeeds {site : Site} {op : StoreOp β} (hP : ∀ s s', Disturbs s s' → P s → P s')
    (hop : op.Quiet) (hok : ∀ s clock, P s → ∃ b, (op.exec clock s).1 = .ok b) :
    PassTriple P (perform site op) fun _ => P := by
  refine Triple.perform_ok (stable_of_disturbs hP) fun s clock hs _ => ?_
  obtain ⟨b, hb⟩ := hok s clock hs
  exact ⟨b, _, Prod.ext hb rfl, hP _ _ (exec_disturbs op hop clock s) hs⟩

/-- One more completion is counted, in at most one counter. -/
def Counted (counts counts' : Counts) : Prop :=
  counts.Nonneg → counts'.Nonneg ∧
    counts'.succeeded + counts'.failed ≤ counts.succeeded + counts.failed + 1

lemma counted_same (counts : Counts) : Counted counts counts :=
  fun h => ⟨h, by omega⟩

lemma counted_succeeded (counts : Counts) :
    Counted counts { counts with succeeded := counts.succeeded + 1 } := by
  simp only [Counted, Counts.Nonneg]
  omega

lemma counted_failed (counts : Counts) :
    Counted counts { counts with failed := counts.failed + 1 } := by
  simp only [Counted, Counts.Nonneg]
  omega

lemma counted_retried (counts : Counts) :
    Counted counts { counts with retried := counts.retried + 1 } := by
  simp only [Counted, Counts.Nonneg]
  omega

lemma counted_unknown (counts : Counts) :
    Counted counts { counts with unknown := counts.unknown + 1 } := by
  simp only [Counted, Counts.Nonneg]
  omega

lemma settledState_toWorkItem (state : OutcomeState) :
    settledState state.toWorkItem = true := by
  cases state <;> rfl

section Completions

variable {owner : String} {now : Time} {site : Site} {running : RunningItem} {counts : Counts}
  {s₀ : OperationalStore}

/-- The pass is handling the completion since `s₀`, and has not touched the lease. -/
structure Handling (running : RunningItem) (s₀ s : OperationalStore) : Prop where
  touches : Touches running.workItem.workId running.lease.leaseId s₀ s
  lease : s.lease? running.lease.leaseId = s₀.lease? running.lease.leaseId

/-- The pass has also recorded the result. -/
structure Recorded (running : RunningItem) (s₀ s : OperationalStore) : Prop extends
    Handling running s₀ s where
  settled : Settled running.workItem.workId s

/-- The pass has recorded the result and released the lease. -/
structure Released (running : RunningItem) (s₀ s : OperationalStore) : Prop where
  touches : Touches running.workItem.workId running.lease.leaseId s₀ s
  settled : Settled running.workItem.workId s
  released : ¬ Active running.lease.leaseId s

variable {s' s : OperationalStore}

lemma Handling.disturbs (hd : Disturbs s s') (h : Handling running s₀ s) : Handling running s₀ s' :=
  ⟨h.touches.trans (hd.touches _ _), by rw [lease?, hd.leases]; exact h.lease⟩

lemma Recorded.disturbs (hd : Disturbs s s') (h : Recorded running s₀ s) : Recorded running s₀ s' :=
  ⟨h.toHandling.disturbs hd, h.settled.disturbs hd⟩

/-- The pass has settled the work item, and released the lease or knows that it is lost. -/
structure Handled (running : RunningItem) (lost : Bool) (s₀ s : OperationalStore) : Prop where
  touches : Touches running.workItem.workId running.lease.leaseId s₀ s
  settled : Settled running.workItem.workId s
  lease : ¬ Active running.lease.leaseId s ∨
    lost = true ∧ s.lease? running.lease.leaseId = s₀.lease? running.lease.leaseId

lemma Handled.disturbs {lost : Bool} (hd : Disturbs s s') (h : Handled running lost s₀ s) :
    Handled running lost s₀ s' := by
  refine ⟨h.touches.trans (hd.touches _ _), h.settled.disturbs hd, ?_⟩
  rw [Active, lease?, hd.leases]
  exact h.lease

lemma Handling.updateWorkItem (hknown : Known owner running s₀) {state : WorkItemState}
    (hstate : settledState state = true) {now : Option Time} :
    PassTriple (Handling running s₀)
      (perform site (.updateWorkItem running.workItem.workId state none now))
      fun _ => Recorded running s₀ := by
  refine Triple.perform_ok (stable_of_disturbs fun _ _ => Handling.disturbs) fun s clock hs _ => ?_
  obtain ⟨b, s', hexec, -, htouches, hleases, w, hw, hws⟩ :=
    updateWorkItem_succeeds clock (hknown.extends_ hs.touches.extends_) state now
  refine ⟨b, s', hexec, ⟨⟨hs.touches.trans htouches, ?_⟩, w, hw, by rw [hws]; exact hstate⟩⟩
  rw [lease?, hleases]
  exact hs.lease

section Steps

variable (hs₀ : s₀.WellFormed) (hknown : Known owner running s₀)

include hs₀ hknown

lemma Handling.perform {op : StoreOp β} (hop : op.Quiet)
    (hok : ∀ s clock, s.WellFormed → Known owner running s → ∃ b, (op.exec clock s).1 = .ok b) :
    PassTriple (Handling running s₀) (perform site op) fun _ => Handling running s₀ :=
  quiet_succeeds (fun _ _ => Handling.disturbs) hop fun s clock hs =>
    hok s clock (hs.touches.wellFormed hs₀) (hknown.extends_ hs.touches.extends_)

variable {failure : FailureClassification}

lemma markUnknown_records :
    PassTriple (Handling running s₀) (markUnknown site running failure)
      fun _ => Recorded running s₀ := by
  refine .bind (Handling.perform hs₀ hknown trivial fun _ clock _ h =>
    transitionAttempt_succeeds clock h) fun _ => ?_
  refine .bind (Handling.perform hs₀ hknown trivial fun _ clock hs h =>
    updatePlannedTrial_succeeds clock hs h) fun _ => ?_
  exact .bind (Handling.updateWorkItem hknown rfl) fun _ => .done fun _ h => h

lemma scheduleRetry_records {afterUnknown : Bool} :
    PassTriple (Recorded running s₀)
      (LocalScheduler.scheduleRetry site running.workItem failure now afterUnknown)
      fun _ => Recorded running s₀ := by
  unfold LocalScheduler.scheduleRetry
  split_ifs
  · exact .done fun _ h => h
  · exact .done fun _ h => h
  · refine .bind (Q := fun attempts s => attempts ≠ [] ∧ Recorded running s₀ s) ?_
      fun attempts => Triple.of_pure fun hne => ?_
    · refine Triple.perform_ok (stable_of_disturbs fun _ _ => Recorded.disturbs) fun s clock hs _ =>
        ⟨_, s, rfl, ?_, hs⟩
      exact (hknown.extends_ hs.touches.extends_).listAttemptsForWork_ne_nil
    · split_ifs
      · exact .done fun _ h => h
      · obtain ⟨exceeded, hexceeded⟩ := elapsedExceeded_ok running.workItem.retryPolicy now
          hne
        rw [hexceeded]
        refine .bind (Q := fun _ => Recorded running s₀) (.done fun _ h => h) fun exceeded => ?_
        split_ifs
        · exact .done fun _ h => h
        · refine .bind (Q := fun _ => Recorded running s₀) ?_ fun _ => .done fun _ h => h
          refine Triple.perform_ok (stable_of_disturbs fun _ _ => Recorded.disturbs)
            fun s clock hs hopen => ?_
          have hbackoff : now ≤ now + running.workItem.retryPolicy.backoffSeconds :=
            Int.le_add_of_nonneg_right (Int.natCast_nonneg _)
          obtain ⟨b, s', hexec, htouches, hleases, hsettled⟩ := scheduleRetry_succeeds clock
            (hs.touches.wellFormed hs₀) hbackoff (hopen _ rfl) hs.settled
          refine ⟨b, s', hexec, ⟨⟨hs.touches.trans htouches, ?_⟩, hsettled⟩⟩
          rw [lease?, hleases]
          exact hs.lease

lemma recordRaised_records :
    PassTriple (Handling running s₀) (recordRaised site now running counts)
      fun counts' s => Counted counts counts' ∧ Recorded running s₀ s := by
  refine .bind (Handling.perform hs₀ hknown trivial fun s clock _ h => ?_) fun currentAttempt => ?_
  · obtain ⟨a, ha, -⟩ := h.attempt
    exact ⟨a, by simpa [StoreOp.getAttempt, StoreOp.exec, requireAttempt] using ha⟩
  refine .bind (Handling.perform hs₀ hknown trivial fun _ _ _ _ => ⟨_, rfl⟩) fun submissions => ?_
  refine .bind (Handling.perform hs₀ hknown trivial fun _ clock _ h =>
    transitionAttempt_succeeds clock h) fun _ => ?_
  refine .bind (Handling.perform hs₀ hknown trivial fun _ clock hs h =>
    updatePlannedTrial_succeeds clock hs h) fun _ => ?_
  refine .bind (Handling.updateWorkItem hknown (settledState_toWorkItem _)) fun _ => ?_
  split_ifs
  · exact .done fun _ h => ⟨counted_unknown counts, h⟩
  · refine .bind (scheduleRetry_records hs₀ hknown) fun retried => ?_
    split_ifs
    · exact .done fun _ h => ⟨counted_retried counts, h⟩
    · exact .done fun _ h => ⟨counted_failed counts, h⟩

lemma recordOutcome_records {outcome : WorkerOutcome} :
    PassTriple (Handling running s₀) (recordOutcome site now running outcome counts)
      fun counts' s => Counted counts counts' ∧ Recorded running s₀ s := by
  have hattempt : PassTriple (Handling running s₀) (recordAttempt site running outcome)
      fun _ => Handling running s₀ := by
    unfold recordAttempt
    split
    · exact .done fun _ h => h
    · split_ifs
      · refine .bind (Handling.perform hs₀ hknown trivial fun _ clock _ h =>
          transitionAttempt_succeeds clock h) fun _ => ?_
        exact .done fun _ h => h
      · exact .done fun _ h => h
  refine .bind hattempt fun _ => ?_
  refine .bind (Handling.perform hs₀ hknown trivial fun _ clock hs h =>
    updatePlannedTrial_succeeds clock hs h) fun _ => ?_
  refine .bind (Handling.updateWorkItem hknown (settledState_toWorkItem _)) fun _ => ?_
  split
  · exact .done fun _ h => ⟨counted_succeeded counts, h⟩
  · unfold recordFailed
    split
    · refine .bind (scheduleRetry_records hs₀ hknown) fun retried => ?_
      split_ifs
      · exact .done fun _ h => ⟨counted_retried counts, h⟩
      · exact .done fun _ h => ⟨counted_failed counts, h⟩
    · exact .done fun _ h => ⟨counted_failed counts, h⟩
  · exact .done fun _ h => ⟨counted_unknown counts, h⟩

lemma recordReturned_records :
    PassTriple (Handling running s₀) (recordReturned site running counts)
      fun counts' s => Counted counts counts' ∧ Recorded running s₀ s := by
  refine .bind (Handling.perform hs₀ hknown trivial fun _ clock _ h =>
    transitionAttempt_succeeds clock h) fun _ => ?_
  refine .bind (Handling.perform hs₀ hknown trivial fun _ clock hs h =>
    updatePlannedTrial_succeeds clock hs h) fun _ => ?_
  exact .bind (Handling.updateWorkItem hknown rfl) fun _ =>
    .done fun _ h => ⟨counted_succeeded counts, h⟩

omit hs₀ in
/-- The lease is active and belongs to the pass, so its release is not refused. -/
lemma releaseLease_releases (howner : isBlank owner = false)
    (hactive : Active running.lease.leaseId s₀) :
    PassTriple (Recorded running s₀)
      (attempt site (.releaseLease running.lease.leaseId owner none))
      fun r s => (∃ l, r = .ok l) ∧ Released running s₀ s := by
  refine Triple.attempt (stable_of_disturbs fun _ _ => Recorded.disturbs) fun s clock hs _ => ?_
  have hactive' : Active running.lease.leaseId s := by
    rw [Active, hs.lease]
    exact hactive
  obtain ⟨l, s', hexec, htouches, hreleased, hsettled⟩ := releaseLease_succeeds clock
    (hknown.extends_ hs.touches.extends_) howner hactive' hs.settled none
  rw [semantics_act, hexec]
  exact ⟨⟨l, rfl⟩, hs.touches.trans htouches, hsettled, hreleased⟩

/-- A completion is recorded, and its lease released unless it is known to be lost. -/
lemma recordCompletion_handles (howner : isBlank owner = false)
    (hactive : Active running.lease.leaseId s₀) {lost : Bool} {result : WorkerResult} :
    PassTriple (Handling running s₀)
      (recordCompletion site owner now running lost result counts)
      fun counts' s => Counted counts counts' ∧ Handled running lost s₀ s := by
  unfold recordCompletion
  split_ifs with hlost
  · refine .bind (markUnknown_records hs₀ hknown) fun _ => .done fun s h =>
      ⟨counted_unknown counts, h.touches, h.settled, .inr ⟨hlost, h.lease⟩⟩
  · have hresult : PassTriple (Handling running s₀) (recordResult site now running result counts)
        fun counts' s => Counted counts counts' ∧ Recorded running s₀ s := by
      cases result with
      | raised => exact recordRaised_records hs₀ hknown
      | outcome outcome => exact recordOutcome_records hs₀ hknown
      | returned => exact recordReturned_records hs₀ hknown
    refine .bind hresult fun recorded => Triple.of_pure fun hcounted => ?_
    refine .bind (releaseLease_releases hknown howner hactive) fun r => Triple.of_pure ?_
    rintro ⟨l, rfl⟩
    exact .done fun s h => ⟨hcounted, h.touches, h.settled, .inl h.released⟩

/-- A completion settles its work item and gives its lease back, unless the lease is known to
be lost. -/
theorem handleCompletion_settles (howner : isBlank owner = false)
    (hactive : Active running.lease.leaseId s₀) {index : ℕ} {lost : Bool}
    {result : WorkerResult} :
    PassTriple (Handling running s₀)
      (handleCompletion owner now index running lost result counts)
      fun counts' s => Counted counts counts' ∧ Handled running lost s₀ s := by
  refine .bind (Q := fun current s => Handling running s₀ s ∧
    (current.state = .cancelled ∨ current.state = .unknown →
      Settled running.workItem.workId s)) ?_ fun current => ?_
  · refine Triple.perform_ok (stable_of_disturbs fun _ _ => Handling.disturbs)
      fun s clock hs _ => ?_
    obtain ⟨w, hw, -⟩ := (hknown.extends_ hs.touches.extends_).work
    refine ⟨w, s, ?_, hs, fun hstate => ⟨w, hw, ?_⟩⟩
    · have hread : s.requireWorkItem running.workItem.workId = .ok w :=
        requireRow_eq_ok.mpr (Option.mem_def.mp hw)
      exact Prod.ext hread rfl
    · rcases hstate with hstate | hstate <;> rw [hstate] <;> rfl
  have hquiet (hstate : current.state = .cancelled ∨ current.state = .unknown) {counts' : Counts}
      (hcounted : Counted counts counts') :
      PassTriple (fun s => Handling running s₀ s ∧ (current.state = .cancelled ∨
        current.state = .unknown → Settled running.workItem.workId s))
        (releaseQuietly (.completion index running.lease.leaseId running.workItem.workId) owner
          running.lease.leaseId >>= fun _ => pure counts')
        fun counts' s => Counted counts counts' ∧ Handled running lost s₀ s := by
    refine Triple.mono (P := Recorded running s₀) ?_ (fun s h => ⟨h.1, h.2 hstate⟩)
      (fun _ _ h => h) fun _ _ h => h
    refine .bind (Q := fun _ => Released running s₀) ?_ fun _ =>
      .done fun s h => ⟨hcounted, h.touches, h.settled, .inl h.released⟩
    refine .bind (releaseLease_releases hknown howner hactive) fun r => Triple.of_pure ?_
    rintro ⟨l, rfl⟩
    exact .done fun _ h => h
  split_ifs with hsettled hunknown
  · exact hquiet hsettled (counted_unknown counts)
  · exact hquiet hsettled (counted_same counts)
  · refine Triple.mono (P := Handling running s₀) ?_ (fun s h => h.1) (fun _ _ h => h)
      fun _ _ h => h
    refine .bind (recordCompletion_handles hs₀ hknown howner hactive) fun counts' =>
      Triple.of_pure fun hcounted => ?_
    refine .bind (quiet_succeeds (fun _ _ => Handled.disturbs) trivial fun s clock hs =>
      completePlanIfTerminal_succeeds clock (hs.touches.wellFormed hs₀)
        (hknown.extends_ hs.touches.extends_)) fun _ => ?_
    exact .done fun s h => ⟨hcounted, h⟩

end Steps

end Completions

end AecBench.Execution
