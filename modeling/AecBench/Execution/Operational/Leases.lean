import AecBench.Execution.Operational.Store

/-!
# Leases

The lease methods of the operational store: selecting and leasing the next work item under the
concurrency caps, acquiring, renewing and releasing a lease, and expiring the leases whose time
has passed.

## Main definitions

* `OperationalStore.expireLease`, `OperationalStore.sweep` — `_expire_leases`.
* `LeaseRequest`, `OperationalStore.leaseNextWorkItem` — the selection of work.
* `OperationalStore.acquireLease`, `renewLease`, `releaseLease`, `expireLeases`.

## Implementation notes

* Times are compared as numbers; the source compares the stored ISO texts in SQL and the parsed
  times in Python.
* `acquireLease` commits its transaction also when the lease is unavailable, so its answer says
  whether it raises.
-/

namespace AecBench.Execution

/-- The failure recorded when a lease expires under an attempt. -/
def leaseExpiredFailure : FailureClassification :=
  { failureClass := .unknown
    kind := .unknownExternalState
    message := "lease expired before reconciliation"
    class_eq := rfl
    message_nonblank := by decide }

/-- `_checked_limits`: no blank key and no limit below one. -/
def checkedLimits {κ : Type} (emptyKey : κ → Bool) : Limits κ → Except StoreError (Limits κ)
  | [] => .ok []
  | (key, value) :: limits =>
    if emptyKey key then .error (.valueError "concurrency limit keys must not be blank")
    else if value = 0 then .error (.valueError "concurrency limits must be positive integers")
    else do return (key, value) :: (← checkedLimits emptyKey limits)

/-- `_under_limit`: the value has no limit, or fewer active leases than its limit. -/
def underLimit {κ : Type} [BEq κ] (value : κ) (limits : Limits κ) (count : ℕ) : Bool :=
  match limits.lookup value with
  | none => true
  | some limit => count < limit

/-- The columns of `_work_item_priority_key`: aged items come first, oldest first; the others
come by priority. -/
def workItemPriorityKey (w : WorkItemRecord) (now : Time) (starvationAfterSeconds : ℕ) :
    List ℤ :=
  if (seconds starvationAfterSeconds : ℤ) ≤ now - w.createdAt then
    [0, w.createdAt, w.ordinal, w.workId]
  else [1, -w.priority, w.createdAt, w.ordinal, w.workId]

/-- The arguments of `lease_next_work_item`. -/
structure LeaseRequest where
  owner : String
  now : Time
  ttl : Duration
  globalLimit : Option ℕ
  runLimits : Limits Uuid
  backendLimits : Limits String
  providerRouteLimits : Limits String
  modelRouteLimits : Limits String
  resourceClassLimits : Limits String
  executionFamilyLimits : Limits String
  priorityAgingSeconds : ℕ
  leaseId : Option Uuid

/-- The request a scheduler with the policy makes for the next work item. -/
def ExecutionPolicy.leaseRequest (policy : ExecutionPolicy) (owner : String) (now : Time) :
    LeaseRequest where
  owner := owner
  now := now
  ttl := seconds policy.leaseTtlSeconds
  globalLimit := some policy.maxConcurrency
  runLimits := policy.runLimits
  backendLimits := policy.backendLimits
  providerRouteLimits := policy.providerRouteLimits
  modelRouteLimits := policy.modelRouteLimits
  resourceClassLimits := policy.resourceClassLimits
  executionFamilyLimits := policy.executionFamilyLimits
  priorityAgingSeconds := policy.priorityAgingSeconds
  leaseId := none

namespace LeaseRequest

/-- The checks made before the transaction. -/
def check (request : LeaseRequest) : Except StoreError Unit := do
  let _ ← requiredText request.owner "owner"
  if request.ttl = 0 then .error (.valueError "lease ttl must be greater than zero")
  else if request.globalLimit = some 0 then .error (.valueError "global_limit must be positive")
  else if request.priorityAgingSeconds = 0 then
    .error (.valueError "priority_aging_seconds must be positive")
  else
    let _ ← checkedLimits (fun _ => false) request.runLimits
    let _ ← checkedLimits (fun key => key.isEmpty) request.backendLimits
    let _ ← checkedLimits (fun key => key.isEmpty) request.providerRouteLimits
    let _ ← checkedLimits (fun key => key.isEmpty) request.modelRouteLimits
    let _ ← checkedLimits (fun key => key.isEmpty) request.resourceClassLimits
    let _ ← checkedLimits (fun key => key.isEmpty) request.executionFamilyLimits
    return ()

/-- No scoped cap of the request is reached for the work item, given the work items that have
an active lease. -/
def admits (request : LeaseRequest) (active : List WorkItemRecord) (w : WorkItemRecord) : Bool :=
  underLimit w.runId request.runLimits (active.countP fun a => a.runId = w.runId) &&
  underLimit w.backend request.backendLimits (active.countP fun a => a.backend = w.backend) &&
  underLimit w.providerRoute request.providerRouteLimits
    (active.countP fun a => a.providerRoute = w.providerRoute) &&
  underLimit w.modelRoute request.modelRouteLimits
    (active.countP fun a => a.modelRoute = w.modelRoute) &&
  underLimit w.resourceClass request.resourceClassLimits
    (active.countP fun a => a.resourceClass = w.resourceClass) &&
  underLimit w.executionFamily request.executionFamilyLimits
    (active.countP fun a => a.executionFamily = w.executionFamily)

/-- The global cap of the request is reached. -/
def full (request : LeaseRequest) (active : List WorkItemRecord) : Bool :=
  match request.globalLimit with
  | none => false
  | some limit => limit ≤ active.length

end LeaseRequest

namespace OperationalStore

variable (s : OperationalStore)

/-! ## Expiry -/

/-- Some attempt is bound to the lease. -/
def attemptExists (leaseId : Uuid) : Bool := s.attempts.any fun a => a.leaseId = some leaseId

/-- The attempt was bound to the lease and has not ended. -/
def openUnder (leaseId : Uuid) (a : AttemptRecord) : Prop :=
  a.leaseId = some leaseId ∧
    (a.state = .created ∨ a.state = .submitted ∨ a.state = .running)

instance (leaseId : Uuid) : DecidablePred (openUnder leaseId) := fun a => by
  unfold openUnder; infer_instance

/-- The states from which the expiry of a lease moves its work item. -/
def expirableState : WorkItemState → Bool
  | .leased | .running | .cancelRequested => true
  | _ => false

/-- The columns written to an attempt whose lease expired. -/
def AttemptRecord.expired (now : Time) (row : AttemptRecord) : AttemptRecord :=
  { row with
    state := .unknown
    finishedAt := some now
    updatedAt := now
    failure := some leaseExpiredFailure
    reconciliationState := .pending }

/-- One round of the loop of `_expire_leases`: the lease expires, and its work item, planned
trial, attempts and submissions follow. Without an attempt the work item is queued again. -/
def expireLease (now : Time) (lease : LeaseRecord) : OperationalStore :=
  let attempted := s.attemptExists lease.leaseId
  let s₁ := s.setLeases (fun l => l.leaseId = lease.leaseId) fun l =>
    { l with state := .expired, releasedAt := some l.expiresAt }
  let s₂ := s₁.setWorkItems
    (fun w => w.workId = lease.workId ∧ expirableState w.state = true) fun w =>
    { w with state := if attempted then .unknown else .queued, updatedAt := now }
  let s₃ := s₂.setPlannedTrials
    (fun t => some t.trialId = (s.workItem? lease.workId).map WorkItemRecord.trialId ∧
      (t.state = .running ∨ t.state = .queued ∨ t.state = .planned) ∧ attempted = true) fun t =>
    { t with state := .unknown, updatedAt := now }
  let s₄ := s₃.setAttempts (openUnder lease.leaseId) (AttemptRecord.expired now)
  s₄.setSubmissions
    (fun b => s.attempts.any fun a =>
      a.attemptId = b.attemptId ∧ a.leaseId = some lease.leaseId) fun b =>
    { b with state := .unknown, updatedAt := now, reconciliationState := .pending }

/-- The leases an expiry at `now` ends: active, past their time, and of the run if one is
given. -/
def expiredLeases (now : Time) (runId : Option Uuid) : List LeaseRecord :=
  s.leases.filter fun l => l.state = .active ∧ l.expiresAt ≤ now ∧
    ∀ run ∈ runId, s.workItems.any fun w => w.workId = l.workId ∧ w.runId = run

/-- `_expire_leases`. -/
def sweep (now : Time) (runId : Option Uuid) : OperationalStore :=
  (s.expiredLeases now runId).foldl (fun s lease => s.expireLease now lease) s

/-! ## Acquiring -/

/-- The insertion of a lease row, subject to its primary key and to the index that allows one
active lease a work item. -/
def insertLease (lease : LeaseRecord) : Except StoreError OperationalStore :=
  if (s.lease? lease.leaseId).isSome then
    .error (.operational ("operational database operation failed: " ++
      "UNIQUE constraint failed: operational_leases.lease_id"))
  else if s.leases.any fun l => l.workId = lease.workId ∧ l.state = .active then
    .error (.operational ("operational database operation failed: " ++
      "UNIQUE constraint failed: operational_leases.work_id"))
  else .ok { s with leases := s.leases ++ [lease] }

/-- The row of a new lease. -/
def newLease (leaseId workId : Uuid) (owner : String) (now : Time) (ttl : Duration) :
    LeaseRecord :=
  { leaseId := leaseId, workId := workId, owner := owner, acquiredAt := now
    expiresAt := now + ttl, heartbeatAt := now, state := .active, releasedAt := none }

/-- The lease id of a request, or a new one. -/
def leaseIdOr (leaseId : Option Uuid) : Uuid :=
  leaseId.getD (freshId (s.leases.map LeaseRecord.leaseId))

/-- The work item becomes leased. -/
def markLeased (workId : Uuid) (now : Time) : OperationalStore :=
  s.setWorkItems (fun w => w.workId = workId) fun w =>
    { w with state := .leased, updatedAt := now }

/-- The work items joined with their active leases. -/
def activeRows : List WorkItemRecord :=
  s.workItems.flatMap fun w =>
    (s.leases.filter fun l => l.workId = w.workId ∧ l.state = .active).map fun _ => w

/-- The queued work items that are available at `now`, of runs that are not asked to stop. -/
def candidates (now : Time) : List WorkItemRecord :=
  Table.orderBy (fun w => [w.availableAt, w.createdAt, w.ordinal, w.workId])
    (s.workItems.filter fun w => w.state = .queued ∧ w.availableAt ≤ now ∧
      s.runs.any fun r => r.runId = w.runId ∧ r.cancellationRequestedAt = none)

/-- The first candidate, in priority order, that no cap excludes; the loop ends at once when
the global cap is reached. -/
def selectCandidate (request : LeaseRequest) : Option WorkItemRecord :=
  let active := s.activeRows
  if request.full active then none
  else (Table.orderBy (fun w => workItemPriorityKey w request.now request.priorityAgingSeconds)
    (s.candidates request.now)).find? (request.admits active)

def leaseNextWorkItem (request : LeaseRequest) :
    Except StoreError (Committed (Option (WorkItemRecord × LeaseRecord))) := do
  request.check
  let swept := s.sweep request.now none
  match swept.selectCandidate request with
  | none => return (none, swept)
  | some candidate =>
    let lease := newLease (s.leaseIdOr request.leaseId) candidate.workId request.owner
      request.now request.ttl
    let inserted ← swept.insertLease lease
    let leased := inserted.markLeased candidate.workId request.now
    return (some (← leased.requireWorkItem candidate.workId, ← leased.requireLease lease.leaseId),
      leased)

/-- The lease to insert for a work item that can be had, or the error to raise once the sweep
is committed. -/
def acquireLease (workId : Uuid) (owner : String) (now : Time) (ttl : Duration)
    (leaseId : Option Uuid) : Except StoreError (Committed (Except StoreError LeaseRecord)) := do
  let _ ← requiredText owner "owner"
  if ttl = 0 then .error (.valueError "lease ttl must be greater than zero")
  else
    let swept := s.sweep now none
    let item ← swept.requireWorkItem workId
    let lease := newLease (s.leaseIdOr leaseId) workId owner now ttl
    match swept.leases.find? fun l => l.workId = workId ∧ l.state = .active with
    | some existing =>
      if now < existing.expiresAt then
        return (.error (.leaseUnavailable s!"work item lease is held by {existing.owner}"), swept)
      else
        let ended := swept.setLeases (fun l => l.leaseId = existing.leaseId) fun l =>
          { l with state := .expired, releasedAt := some l.expiresAt }
        let inserted ← ended.insertLease lease
        return (.ok lease, inserted.markLeased workId now)
    | none =>
      if item.state ≠ .queued then
        return (.error (.leaseUnavailable "work item is not queued"), swept)
      else
        let inserted ← swept.insertLease lease
        return (.ok lease, inserted.markLeased workId now)

/-! ## Renewing, releasing and expiring -/

/-- The columns `renew_lease` writes. -/
def LeaseRecord.renewed (now : Time) (ttl : Duration) (row : LeaseRecord) : LeaseRecord :=
  { row with expiresAt := now + ttl, heartbeatAt := now }

def renewLease (leaseId : Uuid) (owner : String) (now : Time) (ttl : Duration) :
    Except StoreError (Committed LeaseRecord) := do
  let _ ← requiredText owner "owner"
  if ttl = 0 then .error (.valueError "lease ttl must be greater than zero")
  else
    let lease ← s.requireLease leaseId
    if lease.state ≠ .active then .error (.leaseUnavailable "lease is not active")
    else if lease.owner ≠ owner then .error (.leaseUnavailable "lease owner does not match")
    else if lease.expiresAt ≤ now then .error (.leaseUnavailable "lease has expired")
    else
      return (LeaseRecord.renewed now ttl lease,
        s.setLeases (fun l => l.leaseId = leaseId ∧ l.state = .active)
          (LeaseRecord.renewed now ttl))

/-- The columns `release_lease` writes. -/
def LeaseRecord.released (now : Time) (row : LeaseRecord) : LeaseRecord :=
  { row with state := .released, releasedAt := some now }

def releaseLease (leaseId : Uuid) (owner : String) (now : Time) :
    Except StoreError (Committed LeaseRecord) := do
  let _ ← requiredText owner "owner"
  let lease ← s.requireLease leaseId
  if lease.state ≠ .active then .error (.leaseUnavailable "lease is not active")
  else if lease.owner ≠ owner then .error (.leaseUnavailable "lease owner does not match")
  else
    return (LeaseRecord.released now lease,
      (s.setLeases (fun l => l.leaseId = leaseId) (LeaseRecord.released now)).setWorkItems
        (fun w => w.workId = lease.workId ∧ (w.state = .leased ∨ w.state = .running))
        fun w => { w with state := .queued, updatedAt := now })

/-- `expire_leases`: how many leases expire, and the database after the sweep. -/
def expireLeases (runId : Option Uuid) (now : Time) : ℕ × OperationalStore :=
  ((s.expiredLeases now runId).length, s.sweep now runId)

/-! ## What a committed transaction does -/

section Committed

variable {s} {s' : OperationalStore} {now : Time} {ttl : Duration} {owner : String}

lemma sweep_induction {P : OperationalStore → Prop} {runId : Option Uuid}
    (hstep : ∀ s' lease, lease ∈ s.expiredLeases now runId → P s' → P (s'.expireLease now lease))
    (hs : P s) : P (s.sweep now runId) :=
  List.foldlRecOn _ _ hs fun s' h lease hl => hstep s' lease hl h

/-- The lease is inserted and its work item becomes leased. -/
def grant (s : OperationalStore) (lease : LeaseRecord) (now : Time) : OperationalStore :=
  { s with leases := s.leases ++ [lease] }.markLeased lease.workId now

/-- A new lease has a new id and is the only active lease on its work item. -/
def Grantable (s : OperationalStore) (lease : LeaseRecord) : Prop :=
  s.lease? lease.leaseId = none ∧ lease.state = .active ∧
    ∀ l ∈ s.leases, l.workId = lease.workId → l.state ≠ .active

lemma insertLease_ok {lease : LeaseRecord} (hactive : lease.state = .active)
    (h : s.insertLease lease = .ok s') :
    s.Grantable lease ∧ s' = { s with leases := s.leases ++ [lease] } := by
  simp only [insertLease, ite_error_eq_ok, Except.ok.injEq, Bool.not_eq_true,
    Option.isSome_eq_false_iff, Option.isNone_iff_eq_none, List.any_eq_false,
    decide_eq_true_eq, not_and] at h
  exact ⟨⟨h.1, hactive, h.2.1⟩, h.2.2.symm⟩

/-- A selected work item is queued in a run that is not asked to stop, the caps admit it, and
the global cap is not reached. -/
lemma selectCandidate_eq_some {request : LeaseRequest} {w : WorkItemRecord}
    (h : s.selectCandidate request = some w) :
    w ∈ s.workItems ∧ w.state = .queued ∧
      (∃ r ∈ s.runs, r.runId = w.runId ∧ r.cancellationRequestedAt = none) ∧
      request.full s.activeRows = false ∧ request.admits s.activeRows w = true := by
  simp only [selectCandidate] at h
  split at h
  · cases h
  · rename_i hfull
    have hmem := List.mem_of_find?_eq_some h
    simp only [Table.mem_orderBy, candidates, List.mem_filter, decide_eq_true_eq,
      List.any_eq_true] at hmem
    obtain ⟨hw, hq, -, hrun⟩ := hmem
    exact ⟨hw, hq, hrun, by simpa using hfull, List.find?_some h⟩

lemma leaseNextWorkItem_ok {request : LeaseRequest}
    {a : Option (WorkItemRecord × LeaseRecord)}
    (h : s.leaseNextWorkItem request = .ok (a, s')) :
    0 < request.ttl ∧
      (a = none ∧ s' = s.sweep request.now none ∨
        ∃ candidate lease, (s.sweep request.now none).selectCandidate request = some candidate ∧
          lease = newLease (s.leaseIdOr request.leaseId) candidate.workId request.owner
            request.now request.ttl ∧
          (s.sweep request.now none).Grantable lease ∧
          s' = (s.sweep request.now none).grant lease request.now ∧
          ∃ w l, a = some (w, l) ∧ s'.workItem? candidate.workId = some w ∧
            s'.lease? lease.leaseId = some l) := by
  simp only [leaseNextWorkItem, bind_eq_ok, LeaseRequest.check, ite_error_eq_ok] at h
  obtain ⟨_, ⟨_, -, httl, -⟩, h⟩ := h
  refine ⟨Nat.pos_of_ne_zero httl, ?_⟩
  split at h
  · simp only [pure_eq_ok, Prod.mk.injEq] at h
    exact .inl ⟨h.1.symm, h.2.symm⟩
  · rename_i candidate hselect
    simp only [bind_eq_ok, requireWorkItem, requireLease, requireRow_eq_ok, pure_eq_ok,
      Prod.mk.injEq] at h
    obtain ⟨inserted, hins, w, hw, l, hl, rfl, rfl⟩ := h
    obtain ⟨hgrant, rfl⟩ := insertLease_ok (by rfl) hins
    exact .inr ⟨candidate, _, hselect, rfl, hgrant, rfl, w, l, rfl, hw, hl⟩

/-- The lease that holds a work item ends by its time. -/
def endLease (s : OperationalStore) (leaseId : Uuid) : OperationalStore :=
  s.setLeases (fun l => l.leaseId = leaseId) fun l =>
    { l with state := .expired, releasedAt := some l.expiresAt }

lemma acquireLease_ok {workId : Uuid} {leaseId : Option Uuid} {a : Except StoreError LeaseRecord}
    (h : s.acquireLease workId owner now ttl leaseId = .ok (a, s')) :
    s' = s.sweep now none ∨
      ∃ lease item, lease = newLease (s.leaseIdOr leaseId) workId owner now ttl ∧
        (s.sweep now none).workItem? workId = some item ∧
        ((∃ existing ∈ (s.sweep now none).leases, existing.workId = workId ∧
            existing.state = .active ∧ existing.expiresAt ≤ now ∧
            ((s.sweep now none).endLease existing.leaseId).Grantable lease ∧
            s' = ((s.sweep now none).endLease existing.leaseId).grant lease now) ∨
          item.state = .queued ∧ (s.sweep now none).Grantable lease ∧
            s' = (s.sweep now none).grant lease now) := by
  simp only [acquireLease, bind_eq_ok, ite_error_eq_ok, requireWorkItem, requireRow_eq_ok] at h
  obtain ⟨_, -, -, item, hitem, h⟩ := h
  split at h
  · rename_i existing hfind
    have hmem := List.mem_of_find?_eq_some hfind
    have hprop := List.find?_some hfind
    simp only [decide_eq_true_eq] at hprop
    split at h
    · simp only [pure_eq_ok, Prod.mk.injEq] at h
      exact .inl h.2.symm
    · rename_i hexp
      simp only [bind_eq_ok, pure_eq_ok, Prod.mk.injEq] at h
      obtain ⟨inserted, hins, -, rfl⟩ := h
      obtain ⟨hgrant, rfl⟩ := insertLease_ok (by rfl) hins
      exact .inr ⟨_, item, rfl, hitem, .inl ⟨existing, hmem, hprop.1, hprop.2,
        not_lt.mp hexp, hgrant, rfl⟩⟩
  · split at h
    · simp only [pure_eq_ok, Prod.mk.injEq] at h
      exact .inl h.2.symm
    · rename_i hq
      simp only [bind_eq_ok, pure_eq_ok, Prod.mk.injEq] at h
      obtain ⟨inserted, hins, -, rfl⟩ := h
      obtain ⟨hgrant, rfl⟩ := insertLease_ok (by rfl) hins
      exact .inr ⟨_, item, rfl, hitem, .inr ⟨by simpa using hq, hgrant, rfl⟩⟩

lemma renewLease_ok {leaseId : Uuid} {l : LeaseRecord}
    (h : s.renewLease leaseId owner now ttl = .ok (l, s')) :
    s' = s.setLeases (fun l => l.leaseId = leaseId ∧ l.state = .active)
      (LeaseRecord.renewed now ttl) := by
  simp only [renewLease, bind_eq_ok, ite_error_eq_ok, pure_eq_ok, Prod.mk.injEq] at h
  obtain ⟨_, -, -, _, -, -, -, -, -, rfl⟩ := h
  rfl

/-- The two updates of `release_lease`. -/
def release (s : OperationalStore) (leaseId workId : Uuid) (now : Time) : OperationalStore :=
  (s.setLeases (fun l => l.leaseId = leaseId) (LeaseRecord.released now)).setWorkItems
    (fun w => w.workId = workId ∧ (w.state = .leased ∨ w.state = .running))
    fun w => { w with state := .queued, updatedAt := now }

lemma releaseLease_ok {leaseId : Uuid} {l : LeaseRecord}
    (h : s.releaseLease leaseId owner now = .ok (l, s')) :
    ∃ lease, s.lease? leaseId = some lease ∧ lease.state = .active ∧ lease.owner = owner ∧
      s' = s.release leaseId lease.workId now := by
  simp only [releaseLease, bind_eq_ok, requireLease, requireRow_eq_ok, ite_error_eq_ok,
    pure_eq_ok, Prod.mk.injEq, not_not] at h
  obtain ⟨_, -, lease, hlease, hactive, howner, -, rfl⟩ := h
  exact ⟨lease, hlease, hactive, howner, rfl⟩

end Committed

end OperationalStore

end AecBench.Execution
