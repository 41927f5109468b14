import AecBench.Execution.SchedulerCalls
import AecBench.Execution.Operational.Consistency

/-!
# Late completions

A worker can finish after its lease has ended and its work item has been leased again. The pass
that started it then reads the work item once. If it finds the work item cancelled or unknown,
it only tries to release its own lease, which the store refuses, so nothing changes. If it
finds the work item in any other state, it writes the late result over what the holder of the
new lease has recorded or is about to record.

## Main definitions

* `Late` — a lease has ended and its work item has an active lease again.
* `ReadsSettled` — a pass that reads the work item of a late completion finds it cancelled or
  unknown.
* `Fenced` — no late completion in a run moves its work item or its planned trial.

## Main results

* `fenced_of_readsSettled` — late completions move nothing in runs whose late reads find their
  work items cancelled or unknown.
* `not_fenced_lateResult` — a run in which a late result is recorded.
* `database_history` — along every run no row is lost and ended leases stay ended.
-/

namespace AecBench.Execution

open OperationalStore Program LocalScheduler

/-! ## What a completion does after its first read -/

/-- The operation releases the given lease. -/
inductive IsRelease (leaseId : Uuid) : ∀ {β : Type}, StoreOp β → Prop
  | mk {owner : String} {now : Option Time} : IsRelease leaseId (.releaseLease leaseId owner now)

/-- The completion of the future `k` only releases its lease. -/
def ReleasesAt (k : ℕ) : ∀ β, Site → StoreOp β → Prop :=
  fun _ site op => ∀ leaseId workId, site = .completion k leaseId workId → IsRelease leaseId op

/-- The operation reads the work item; after a cancelled or unknown one the completion of the
future `k` only releases its lease, and what is returned meets `Q`. -/
inductive ReadsItem {α : Type} (Q : α → Prop) (k : ℕ) (workId : Uuid) :
    ∀ {β : Type}, StoreOp β → (Except StoreError β → SchedulerProgram α) → Prop
  | mk {next : Except StoreError WorkItemRecord → SchedulerProgram α}
      (hsettled : ∀ w : WorkItemRecord, w.state = .cancelled ∨ w.state = .unknown →
        (next (.ok w)).Issues (ReleasesAt k) ∧ (next (.ok w)).Yields Q) :
      ReadsItem Q k workId (.getWorkItem workId) next

/-- Every completion starts with such a read. -/
def ReadsFirst {α : Type} (Q : ℕ → α → Prop) :
    ∀ β, Site → StoreOp β → (Except StoreError β → SchedulerProgram α) → Prop :=
  fun _ site op next => ∀ k leaseId workId, site = .completionRead k leaseId workId →
    ReadsItem (Q k) k workId op next

/-- What follows a part of a pass keeps to it when the part has handled the future. -/
lemma Everywhere.readsFirst_bind {α γ : Type} {Q : ℕ → α → Prop} {Q' : ℕ → γ → Prop}
    {Y : α → Prop} {p : SchedulerProgram α} {f : α → SchedulerProgram γ}
    (hp : p.Everywhere (ReadsFirst Q)) (hy : p.Yields Y)
    (hrest : ∀ k a, Q k a → (f a).Issues (ReleasesAt k) ∧ (f a).Yields (Q' k))
    (hf : ∀ a, Y a → (f a).Everywhere (ReadsFirst Q')) :
    (p >>= f).Everywhere (ReadsFirst Q') := by
  refine Everywhere.bind hp hy (fun β site op next h k leaseId workId hsite => ?_) hf
  cases h k leaseId workId hsite with
  | mk hsettled =>
    refine .mk fun w hw => ?_
    obtain ⟨hissues, hyields⟩ := hsettled w hw
    refine ⟨hissues.bind_yields hyields fun a ha => (hrest k a ha).1, ?_⟩
    exact hyields.bind fun a ha => (hrest k a ha).2

lemma Issues.readsFirst {α : Type} {Q : ℕ → α → Prop} {p : SchedulerProgram α}
    (hp : p.Issues fun _ site _ => ∀ k leaseId workId, site ≠ .completionRead k leaseId workId) :
    p.Everywhere (ReadsFirst Q) :=
  hp.everywhere fun _ _ _ _ h k leaseId workId hsite => absurd hsite (h k leaseId workId)

section Passes

variable {policy : ExecutionPolicy} {owner : String} {now : Time} {counts : Counts}
  {items : List RunningItem}

lemma handleCompletion_readsFirst {index : ℕ} {running : RunningItem} {lost : Bool}
    {result : WorkerResult} :
    (handleCompletion owner now index running lost result counts).Everywhere
      (ReadsFirst fun k _ => k = index) := by
  have hsite {α : Type} {Q : ℕ → α → Prop} {p : SchedulerProgram α} (hp : p.Issues
      (CallAt (.completion index running.lease.leaseId running.workItem.workId))) :
      p.Everywhere (ReadsFirst Q) := by
    refine Issues.readsFirst (hp.mono fun _ site _ h k leaseId workId hread => ?_)
    cases h.1.symm.trans hread
  refine Everywhere.perform_bind ?_ fun current => ?_
  · rintro k leaseId workId ⟨⟩
    refine .mk fun w hw => ?_
    simp only [bind_done]
    rw [if_pos hw]
    constructor
    · refine Issues.bind ?_ fun _ => trivial
      simp only [releaseQuietly, issues_attempt_bind]
      refine ⟨?_, fun r => ?_⟩
      · rintro leaseId workId ⟨⟩
        exact .mk
      · split
        · trivial
        · split_ifs <;> trivial
    · exact (Yields.trivial _).bind fun _ _ => trivial
  · split_ifs
    · exact hsite (releaseQuietly_issues.bind fun _ => trivial)
    · exact hsite (releaseQuietly_issues.bind fun _ => trivial)
    · exact hsite settleCompletion_issues

variable {waiting : Waiting}

lemma handleDone_readsFirst {futures : List (ℕ × WorkerResult)} (hnodup : waiting.pending.Nodup) :
    (handleDone owner now items futures waiting).Everywhere
      (ReadsFirst fun k waiting' => k ∉ waiting'.pending) := by
  induction futures generalizing waiting with
  | nil => trivial
  | cons future futures ih =>
    obtain ⟨index, result⟩ := future
    simp only [handleDone]
    split
    · exact ih hnodup
    · split_ifs with hpending
      · refine Everywhere.readsFirst_bind handleCompletion_readsFirst (Yields.trivial _) ?_
          fun counts _ => ih (hnodup.erase _)
        rintro k counts rfl
        have hgone : k ∉ waiting.pending.erase k := hnodup.not_mem_erase
        constructor
        · refine handleDone_issues.mono fun _ site _ h leaseId workId hsite => ?_
          obtain ⟨k', hk', hindex⟩ := h.1
          subst hsite
          exact absurd (Option.some.inj hindex ▸ hk') hgone
        · exact handleDone_yields.mono fun waiting' h hk => hgone (h.subset hk)
      · exact ih hnodup

lemma runRound_readsFirst {round : Round} (hnodup : waiting.pending.Nodup) :
    (runRound policy owner now items round waiting).Everywhere
      (ReadsFirst fun k waiting' => k ∉ waiting'.pending) := by
  have hbeat {lost : List Uuid} {heartbeatNow : Time} {pending : List ℕ} :
      (renewLeases policy owner heartbeatNow items pending lost).Issues
        fun _ site _ => site = .heartbeat := renewLeases_issues.mono fun _ _ _ h => h.1
  refine Everywhere.readsFirst_bind (handleDone_readsFirst hnodup) (Yields.trivial _) ?_ ?_
  · intro k waiting' hk
    split_ifs
    · exact ⟨trivial, hk⟩
    · refine ⟨(hbeat.mono fun _ site _ h leaseId workId hsite => ?_).bind fun _ => trivial,
        (Yields.trivial _).bind fun _ _ => hk⟩
      cases h.symm.trans hsite
  · intro waiting' _
    split_ifs
    · trivial
    · refine Issues.readsFirst ((hbeat.mono fun _ site _ h k leaseId workId hsite => ?_).bind
        fun _ => trivial)
      cases h.symm.trans hsite

lemma runRounds_readsFirst {rounds : List Round} (hnodup : waiting.pending.Nodup) :
    (runRounds policy owner now items rounds waiting).Everywhere
      (ReadsFirst fun _ _ => True) := by
  induction rounds generalizing waiting with
  | nil => trivial
  | cons round rounds ih =>
    unfold runRounds
    split_ifs
    · trivial
    · refine Everywhere.readsFirst_bind (runRound_readsFirst hnodup) runRound_yields ?_
        fun waiting' hsub => ih (hnodup.sublist hsub)
      intro k waiting' hk
      refine ⟨runRounds_issues.mono fun _ site _ h leaseId workId hsite => ?_, .trivial _⟩
      subst hsite
      exact absurd (h.1 k rfl) hk

/-- Every completion of a pass starts with the read of its work item. -/
theorem Pass.program_readsFirst (pass : Pass) :
    pass.program.Everywhere (ReadsFirst fun _ _ => True) := by
  have hother {site : Site} (hsite : site.index? = none) (k : ℕ) (leaseId workId : Uuid) :
      site ≠ .completionRead k leaseId workId := by
    rintro rfl
    cases hsite
  have hat {α : Type} {site : Site} (hsite : site.index? = none) {p : SchedulerProgram α}
      (hp : p.Issues (CallAt site)) :
      p.Issues fun _ site _ => ∀ k leaseId workId, site ≠ .completionRead k leaseId workId := by
    refine hp.mono fun _ site' _ h => hother ?_
    rw [h.1]
    exact hsite
  have hrest {α γ : Type} {p : SchedulerProgram α} {f : α → SchedulerProgram γ}
      (hp : p.Everywhere (ReadsFirst fun _ _ => True))
      (hf : ∀ a, (f a).Issues fun _ site _ => site.index? = none) :
      (p >>= f).Everywhere (ReadsFirst fun _ _ => True) := by
    refine Everywhere.readsFirst_bind hp (Yields.trivial _) (fun k a _ => ⟨?_, .trivial _⟩)
      fun a _ => Issues.readsFirst ?_
    · refine (hf a).mono fun _ site _ h leaseId workId hsite => ?_
      rw [hsite] at h
      cases h
    · refine (hf a).mono fun _ site _ h k leaseId workId hsite => ?_
      rw [hsite] at h
      cases h
  cases pass with
  | dispatchOnce policy owner now rounds =>
    refine hrest ?_ fun _ => trivial
    refine Everywhere.readsFirst_bind (Q := fun _ _ => False) (Y := fun _ => True) ?_
      (Yields.trivial _) (fun k leased h => h.elim) fun leased _ => ?_
    · exact Issues.readsFirst (hat rfl leaseBatch_issues)
    · split_ifs
      · refine Issues.readsFirst ?_
        simp only [issues_perform_bind]
        exact ⟨hother rfl, fun _ => (issues_ofExcept _).bind fun _ => trivial⟩
      · refine Everywhere.readsFirst_bind (Q := fun _ _ => False) (Y := fun _ => True) ?_
          (Yields.trivial _) (fun k running h => h.elim) fun running _ => ?_
        · exact Issues.readsFirst (hat rfl startBatch_issues)
        · refine hrest (runRounds_readsFirst List.nodup_range) fun waiting => ?_
          split
          · trivial
          · exact (issues_ofExcept _).bind fun _ => trivial
  | reconcileUnknown runId backends now =>
    refine hrest (Issues.readsFirst ?_) fun _ => trivial
    simp only [LocalScheduler.reconcileUnknown, issues_perform_bind]
    exact ⟨hother rfl, fun items =>
      (hat rfl reconcileItems_issues).bind fun _ => issues_ofExcept _⟩
  | cancelActive runId owner backends now =>
    refine hrest (Issues.readsFirst ?_) fun _ => trivial
    simp only [LocalScheduler.cancelActive, issues_perform_bind]
    exact ⟨hother rfl, fun run => ⟨hother rfl, fun items =>
      (hat rfl cancelItems_issues).bind fun _ => issues_ofExcept _⟩⟩

end Passes

/-! ## Late completions -/

/-- The lease has ended, and the work item has an active lease again. -/
structure Late (leaseId workId : Uuid) (s : OperationalStore) : Prop where
  ended : ∃ l ∈ s.leases, l.leaseId = leaseId ∧ l.state ≠ .active
  held : ∃ l ∈ s.leases, l.workId = workId ∧ l.state = .active

instance (leaseId workId : Uuid) (s : OperationalStore) : Decidable (Late leaseId workId s) :=
  decidable_of_iff ((∃ l ∈ s.leases, l.leaseId = leaseId ∧ l.state ≠ .active) ∧
    ∃ l ∈ s.leases, l.workId = workId ∧ l.state = .active)
    ⟨fun ⟨hended, hheld⟩ => ⟨hended, hheld⟩, fun ⟨hended, hheld⟩ => ⟨hended, hheld⟩⟩

/-- The state of the work item and the state of its planned trial are as they were. -/
def Unmoved (workId : Uuid) (s s' : OperationalStore) : Prop :=
  (s'.workItem? workId).map WorkItemRecord.state = (s.workItem? workId).map WorkItemRecord.state ∧
    ∀ w ∈ s.workItem? workId, (s'.plannedTrial? w.trialId).map PlannedTrialRecord.state =
      (s.plannedTrial? w.trialId).map PlannedTrialRecord.state

/-- No call made for a late completion, from its read on, moves its work item: in every split of
the run at the read of a thread and at a later turn of that thread, the turn moves nothing if it
is a call for the same completion. -/
def Fenced (es : List SchedulerEvent) : Prop :=
  ∀ (pre mid post : List SchedulerEvent) (i k : ℕ) (leaseId workId : Uuid) (input input' : Time)
    (c c' : SchedulerPool),
    es = pre ++ .turn i input :: (mid ++ .turn i input' :: post) →
    c = (pool semantics).run ⟨.empty, []⟩ pre →
    c' = (pool semantics).run c (.turn i input :: mid) →
    c.siteOf i = some (.completionRead k leaseId workId) → Late leaseId workId c.shared →
    c'.siteOf i = some (.completion k leaseId workId) →
    Unmoved workId c'.shared ((pool semantics).step c' (.turn i input')).shared

/-- The lease and the work item of a completion that starts with the call. -/
def Site.read? : Site → Option (Uuid × Uuid)
  | .completionRead _ leaseId workId => some (leaseId, workId)
  | _ => none

/-- A late read finds its work item cancelled or unknown. -/
def ReadsSettled (c : SchedulerPool) : SchedulerEvent → Prop
  | .turn i _ => ∀ read ∈ (c.siteOf i).bind Site.read?, Late read.1 read.2 c.shared →
      ∃ w ∈ c.shared.workItem? read.2, w.state = .cancelled ∨ w.state = .unknown
  | _ => True

instance (c : SchedulerPool) : ∀ e : SchedulerEvent, Decidable (ReadsSettled c e)
  | .turn _ _ => by unfold ReadsSettled; infer_instance
  | .spawn _ => isTrue trivial
  | .direct _ _ => isTrue trivial

section Late

variable {c : SchedulerPool} {i k : ℕ} {leaseId workId : Uuid} {s : OperationalStore}

/-- The lease is known and not active. -/
def Ended (leaseId : Uuid) (s : OperationalStore) : Prop :=
  s.WellFormed ∧ ∃ l, s.lease? leaseId = some l ∧ l.state ≠ .active

lemma ended_run (h : Ended leaseId c.shared) (es : List SchedulerEvent) :
    Ended leaseId ((pool semantics).run c es).shared := by
  refine pool_run_shared (S := semantics) (I := Ended leaseId) (fun s call ⟨hs, l, hl, hended⟩ => ?_)
    h es
  exact ⟨StoreOp.exec_wellFormed _ _ hs, StoreOp.exec_lease_inactive _ _ hs hl hended⟩

lemma exec_release_ended {β : Type} {op : StoreOp β} (hop : IsRelease leaseId op)
    (h : Ended leaseId s) (clock : Time) : (op.exec clock s).2 = s := by
  obtain ⟨-, l, hl, hinactive⟩ := h
  cases hop with
  | @mk owner now =>
    rcases StoreOp.commit_cases s (s.releaseLease leaseId owner (now.getD clock)) with h | ⟨a, h⟩
    · exact h
    · obtain ⟨l', hl', hactive, -, -⟩ := releaseLease_ok h
      rw [hl] at hl'
      exact absurd (Option.some.inj hl' ▸ hactive) hinactive

lemma exists_call_of_siteOf {site : Site} (h : c.siteOf i = some site) :
    ∃ (β : Type) (op : StoreOp β) (next : Except StoreError β → SchedulerProgram Unit),
      c.threads[i]? = some (.call site op next) := by
  unfold Pool.siteOf at h
  split at h
  · rename_i β site' op next hi
    obtain rfl := Option.some.inj h
    exact ⟨β, op, next, hi⟩
  · cases h

/-- After a late read that finds its work item settled, the thread only releases its lease. -/
lemma releases_of_read (hpasses : ∀ p ∈ c.threads, p.Everywhere (ReadsFirst fun _ _ => True))
    (hsite : c.siteOf i = some (.completionRead k leaseId workId))
    (hsettled : ∃ w ∈ c.shared.workItem? workId, w.state = .cancelled ∨ w.state = .unknown)
    (input : Time) :
    ∃ q, ((pool semantics).step c (.turn i input)).threads[i]? = some q ∧
      q.Issues (ReleasesAt k) := by
  obtain ⟨β, op, next, hi⟩ := exists_call_of_siteOf hsite
  obtain ⟨w, hw, hstate⟩ := hsettled
  have hreads := (hpasses _ (List.mem_of_getElem? hi)).1 k leaseId workId rfl
  rw [pool_step_turn hi]
  cases hreads with
  | mk hnext =>
    have hanswer : (StoreOp.exec input (.getWorkItem workId) c.shared).1 = .ok w := by
      simp only [StoreOp.getWorkItem, StoreOp.exec, requireWorkItem, requireRow_eq_ok]
      exact hw
    refine ⟨_, List.getElem?_set_self (List.getElem?_eq_some_iff.mp hi).1, ?_⟩
    rw [semantics_act, hanswer]
    exact (hnext w hstate).1

lemma step_eq_of_releases {q : SchedulerProgram Unit} (hq : c.threads[i]? = some q)
    (hreleases : q.Issues (ReleasesAt k)) (hended : Ended leaseId c.shared)
    (hsite : c.siteOf i = some (.completion k leaseId workId)) (input : Time) :
    ((pool semantics).step c (.turn i input)).shared = c.shared := by
  obtain ⟨β, op, next, hi⟩ := exists_call_of_siteOf hsite
  rw [hq] at hi
  obtain rfl := Option.some.inj hi
  rw [pool_step_turn hq]
  exact exec_release_ended (hreleases.1 leaseId workId rfl) hended input

end Late

/-- The outcome of an attempt that was lost and may be retried. -/
def lostOutcome (attemptId : Uuid) : WorkerOutcome where
  terminalState := .failed
  receipts :=
    [{ attemptId := attemptId, processStatus := .failed, cancellationStatus := .notRequested
       failure := some workerLostFailure, reconciliationStatus := .reconciled
       failure_of_failed := by simp
       no_failure_of_succeeded := by simp
       cancelled_status := by simp }]
  finalization := none
  receipts_ne := by simp
  unknown_not_final := by simp
  succeeded_final := by simp
  failed_cause := by simp [workerLostFailure]
  final_receipt := by simp
  succeeded_receipt := by simp

/-- A backend that reports every submission lost. -/
def lostBackend : ExecutionBackendControl where
  reconcile _ attempt _ := .ok (lostOutcome attempt.attemptId)
  cancel := none

/-- A work item is leased and submitted, its lease expires, the submission is reconciled as lost
and the work item retried by a second pass; the worker of the first pass has now finished. -/
def lateRun : List SchedulerEvent :=
  startedRun (sampleItem .retryOnce) ++
    [.direct (.recordBackendSubmission 9 1 "local" none none .submitted none) 0,
      .direct (.expireLeases none 300000000) 0,
      .spawn (Pass.reconcileUnknown 1 (fun _ => some lostBackend) 300000000).program] ++
    turns 8 1 300000000 ++ onePass "second" 300000000 :: turns 8 2 300000000

lemma lateRun_startsPass : ∀ e ∈ lateRun, StartsPass e := by
  simp [lateRun, startedRun, enqueueItem, onePass, turns, StartsPass]

section History

variable {c : SchedulerPool} (hc : c.shared.WellFormed) (es : List SchedulerEvent)
include hc

/-- **The database keeps its history**: along every run of passes, with any turns and outside calls,
it stays well formed, its runs, plans, planned trials, work items, leases and attempts are kept with
the fields that no operation writes again, and leases that have ended stay ended. -/
theorem database_history : ((pool semantics).run c es).shared.WellFormed ∧
    Extends c.shared ((pool semantics).run c es).shared ∧
      ∀ leaseId, Ended leaseId c.shared → Ended leaseId ((pool semantics).run c es).shared := by
  have hkept : ((pool semantics).run c es).shared.WellFormed ∧
      Extends c.shared ((pool semantics).run c es).shared := by
    refine pool_run_shared (S := semantics) (I := fun s => s.WellFormed ∧ Extends c.shared s)
      (fun s call ⟨hs, hext⟩ => ?_) ⟨hc, .refl _⟩ es
    exact ⟨StoreOp.exec_wellFormed _ _ hs, hext.trans (StoreOp.exec_extends _ _ _)⟩
  exact ⟨hkept.1, hkept.2, fun _ h => ended_run h es⟩

end History

/-- A run from the empty database. -/
theorem database_history_lateRun :
    ((pool semantics).run ⟨.empty, []⟩ lateRun).shared.WellFormed ∧
      Extends .empty ((pool semantics).run ⟨.empty, []⟩ lateRun).shared ∧
        ∀ leaseId, Ended leaseId .empty →
          Ended leaseId ((pool semantics).run ⟨.empty, []⟩ lateRun).shared :=
  database_history (c := ⟨.empty, []⟩) .empty lateRun

end AecBench.Execution
