import AecBench.Execution.Closure
import AecBench.Execution.SchedulerCalls
import AecBench.Execution.Operational.Transitions

/-!
# What a cancellation request prevents

A request for the cancellation of a run, or of one trial, leaves none of its work items queued,
and leases are granted only on queued work items. So the request lasts as long as no work item
returns to the queue. Three steps of the store return work items to the queue without looking
at the request: the expiry of a lease without an attempt, the release of a lease under a work
item that is still leased or running, and, for the request of a single trial, the scheduling of
a retry.

## Main definitions

* `InScope` — the work items a request concerns; `Applies` — the request is not refused.
* `Sticks` — since the request, no lease was granted on these work items and none of those it
  moved is queued.
* `StoreOp.Requeues` — an operation returns a work item to the queue.

## Main results

* `sticks_of_not_requeues` — the request lasts along every run whose steps return none of its
  work items to the queue.
* `not_sticks_expiredLease` — a cancelled work item whose lease expires is leased again.
-/

namespace AecBench.Execution

open OperationalStore Program

/-- The work items that a request for a run, or for one trial of it, concerns. -/
def InScope (runId : Uuid) : Option Uuid → WorkItemRecord → Prop
  | none, w => w.runId = runId
  | some trialId, w => w.trialId = trialId

instance (runId : Uuid) : ∀ (trialId : Option Uuid) (w : WorkItemRecord),
    Decidable (InScope runId trialId w)
  | none, w => inferInstanceAs (Decidable (w.runId = runId))
  | some trialId, w => inferInstanceAs (Decidable (w.trialId = trialId))

/-- A request that is not refused: the run is not final, and the trial belongs to it. -/
def Applies (runId : Uuid) (trialId : Option Uuid) (s : OperationalStore) : Prop :=
  (∃ run ∈ s.run? runId, run.status.isFinal = false) ∧
    ∀ id ∈ trialId, ∃ trial ∈ s.plannedTrial? id, trial.runId = runId

instance (runId : Uuid) (trialId : Option Uuid) (s : OperationalStore) :
    Decidable (Applies runId trialId s) := by
  unfold Applies; infer_instance

/-- The work item was moved to `cancel_requested` or `cancelled` between the two databases. -/
def MovedByRequest (s₀ s₁ : OperationalStore) (workId : Uuid) : Prop :=
  (s₁.workItem? workId).map WorkItemRecord.state ≠ (s₀.workItem? workId).map WorkItemRecord.state ∧
    ((s₁.workItem? workId).map WorkItemRecord.state = some .cancelRequested ∨
      (s₁.workItem? workId).map WorkItemRecord.state = some .cancelled)

instance (s₀ s₁ : OperationalStore) (workId : Uuid) : Decidable (MovedByRequest s₀ s₁ workId) := by
  unfold MovedByRequest; infer_instance

/-- Since the request that led from `s₀` to `s₁`, no lease was created for a work item in its
scope, and no work item it moved is queued. -/
structure Sticks (runId : Uuid) (trialId : Option Uuid) (s₀ s₁ s : OperationalStore) : Prop where
  no_lease : ∀ l ∈ s.leases, (∃ w ∈ s.workItems, w.workId = l.workId ∧ InScope runId trialId w) →
    (s₁.lease? l.leaseId).isSome
  not_queued : ∀ w ∈ s.workItems, InScope runId trialId w → MovedByRequest s₀ s₁ w.workId →
    w.state ≠ .queued

namespace StoreOp

/-- The operation returns the work item to the queue. -/
def Requeues (s : OperationalStore) (w : WorkItemRecord) : ∀ {β : Type}, StoreOp β → Prop
  | _, .releaseLease leaseId owner _ => ∃ l ∈ s.lease? leaseId, l.state = .active ∧
      l.owner = owner ∧ l.workId = w.workId ∧ (w.state = .leased ∨ w.state = .running)
  | _, .scheduleRetry workId _ _ => workId = w.workId ∧ retryableState w.state = true ∧
      ∃ run ∈ s.run? w.runId, run.cancellationRequestedAt = none
  | _, op => expirableState w.state = true ∧ ∃ window ∈ op.sweepsAt,
      ∃ l ∈ s.expiredLeases window.1 window.2, l.workId = w.workId ∧
        s.attemptExists l.leaseId = false

instance (s : OperationalStore) (w : WorkItemRecord) {β : Type} (op : StoreOp β) :
    Decidable (op.Requeues s w) := by
  unfold Requeues
  split <;> infer_instance

variable {β : Type} {op : StoreOp β} {s : OperationalStore} {w : WorkItemRecord}

lemma requeues_of_sweepMoves {now : Time} {runId : Option Uuid}
    (hop : op.sweepsAt = some (now, runId)) {state : WorkItemState}
    (hmoves : SweepMoves s now runId w state) (hstate : state = .queued)
    (hw : w.state ≠ .queued) : op.Requeues s w := by
  cases hmoves with
  | stays => exact absurd hstate hw
  | lost => cases hstate
  | requeued hl hwork hattempt hexpirable =>
    cases op with
    | leaseNextWorkItem | acquireLease | expireLeases =>
      exact ⟨hexpirable, _, hop, _, hl, hwork, hattempt⟩
    | _ => cases hop

lemma Moves.requeues {state : WorkItemState} (hmoves : Moves s w op state)
    (hstate : state = .queued) (hop : ¬ op.Enqueues) (hw : w.state ≠ .queued) :
    op.Requeues s w := by
  cases hmoves with
  | stays => exact absurd hstate hw
  | updated => exact absurd hstate hop
  | cancelled =>
    revert hstate hw
    cases w.state <;> simp [cancelledState]
  | retried hretryable hrun hopen => exact ⟨rfl, hretryable, _, hrun, hopen⟩
  | released hlease hactive howner hwork hheld =>
    exact ⟨_, hlease, hactive, howner, hwork, hheld⟩
  | swept hsweeps hmoves => exact requeues_of_sweepMoves hsweeps hmoves hstate hw
  | leased => cases hstate

end StoreOp

/-! ## One step -/

section Step

variable {runId : Uuid} {trialId : Option Uuid} {s s₁ : OperationalStore}

lemma InScope.congr {w w' : WorkItemRecord} (hf : w'.frozen = w.frozen)
    (h : InScope runId trialId w') : InScope runId trialId w := by
  have hrun : w'.runId = w.runId := WellFormed.column_eq _ (fun _ => by rfl) hf
  have htrial : w'.trialId = w.trialId := WellFormed.column_eq _ (fun _ => by rfl) hf
  cases trialId with
  | none => exact hrun.symm.trans h
  | some trial => exact htrial.symm.trans h

/-- No work item of the scope is queued, and its leases are those that were known before. -/
structure Halted (runId : Uuid) (trialId : Option Uuid) (s₁ s : OperationalStore) : Prop where
  wellFormed : s.WellFormed
  not_queued : ∀ w ∈ s.workItems, InScope runId trialId w → w.state ≠ .queued
  no_lease : ∀ l ∈ s.leases, (∃ w ∈ s.workItems, w.workId = l.workId ∧ InScope runId trialId w) →
    (s₁.lease? l.leaseId).isSome

/-- An operation that neither enqueues nor returns a work item of the scope to the queue keeps
the scope halted. -/
lemma Halted.exec {β : Type} {op : StoreOp β} (clock : Time) (h : Halted runId trialId s₁ s)
    (hop : ¬ op.Enqueues)
    (hkeeps : ∀ w ∈ s.workItems, InScope runId trialId w → ¬ op.Requeues s w) :
    Halted runId trialId s₁ (op.exec clock s).2 where
  wellFormed := StoreOp.exec_wellFormed clock op h.wellFormed
  not_queued w' hw' hscope hqueued := by
    obtain ⟨w, hw, hf, hmoves⟩ := StoreOp.exec_mem_workItems clock h.wellFormed hop hw'
    have hscope' : InScope runId trialId w := hscope.congr hf
    exact hkeeps w hw hscope' (hmoves.requeues hqueued hop (h.not_queued w hw hscope'))
  no_lease l' hl' := by
    rintro ⟨w', hw', hid, hscope⟩
    obtain ⟨w, hw, hf, -⟩ := StoreOp.exec_mem_workItems clock h.wellFormed hop hw'
    have hscope' : InScope runId trialId w := hscope.congr hf
    have hwork : w.workId = l'.workId :=
      (WellFormed.column_eq WorkItemRecord.workId (fun _ => by rfl) hf).symm.trans hid
    rcases StoreOp.exec_leases clock op hl' with ⟨l, hl, hlf⟩ | ⟨-, now, hsweeps, v, hv, hvid, hq⟩
    · have hlid : l.leaseId = l'.leaseId := WellFormed.column_eq _ (fun _ => by rfl) hlf
      have hlwork : l.workId = l'.workId := WellFormed.column_eq _ (fun _ => by rfl) hlf
      rw [← hlid]
      exact h.no_lease l hl ⟨w, hw, hwork.trans hlwork.symm, hscope'⟩
    · -- a new lease needs a queued work item, so the expiry has returned it to the queue
      obtain ⟨w₀, hw₀, hf₀, hmoves⟩ := sweep_mem h.wellFormed hv
      have hsame : w₀ = w := by
        refine h.wellFormed.works_keyed.eq_of_key_eq hw₀ hw ?_
        rw [hwork, ← hvid]
        exact (WellFormed.column_eq WorkItemRecord.workId (fun _ => by rfl) hf₀).symm
      subst hsame
      exact absurd (StoreOp.requeues_of_sweepMoves hsweeps hmoves hq (h.not_queued w₀ hw₀ hscope'))
        (hkeeps w₀ hw₀ hscope')

lemma applyCancellation_of_applies (happlies : Applies runId trialId s) (now : Time) :
    ∃ cancelled, s.applyCancellation runId trialId now = .ok cancelled := by
  cases trialId with
  | none => exact ⟨_, rfl⟩
  | some trialId =>
    obtain ⟨trial, htrial, hrun⟩ := happlies.2 trialId rfl
    refine ⟨s.cancelWork (fun w => w.trialId = trialId) (fun t => t.trialId = trialId) now, ?_⟩
    simp only [applyCancellation, bind_eq_ok, requirePlannedTrial, requireRow_eq_ok]
    exact ⟨trial, htrial, by rw [if_neg (by simpa using hrun)]; rfl⟩

lemma applyCancellation_not_queued {cancelled : OperationalStore} {now : Time}
    (h : s.applyCancellation runId trialId now = .ok cancelled) {w' : WorkItemRecord}
    (hw' : w' ∈ cancelled.workItems) (hscope : InScope runId trialId w') :
    w'.state ≠ .queued := by
  have hcancelled (inScope : WorkItemRecord → Prop) [DecidablePred inScope] {w : WorkItemRecord}
      (hw : inScope w) {v : WorkItemRecord} (hv : (if inScope w ∧ (w.state = .queued ∨
        w.state = .leased ∨ w.state = .running) then
          { w with state := cancelledState w.state, updatedAt := now } else w) = v) :
      v.state ≠ .queued := by
    subst hv
    by_cases hq : w.state = .queued
    · rw [if_pos ⟨hw, .inl hq⟩, hq]
      simp [cancelledState]
    · split_ifs with hmoved
      · obtain ⟨-, h | h | h⟩ := hmoved <;> simp [h, cancelledState]
      · exact hq
  rcases applyCancellation_ok h with ⟨rfl, rfl⟩ | ⟨trial, row, rfl, -, -, rfl⟩
  · obtain ⟨w, hw, hw'⟩ := Table.mem_updateWhere.mp hw'
    have hf : w'.frozen = w.frozen := by
      rw [← hw']
      split_ifs <;> rfl
    have hscope' : InScope runId none w := hscope.congr hf
    exact hcancelled (fun w => w.runId = runId) hscope' hw'
  · obtain ⟨w, hw, hw'⟩ := Table.mem_updateWhere.mp hw'
    have hf : w'.frozen = w.frozen := by
      rw [← hw']
      split_ifs <;> rfl
    have hscope' : InScope runId (some trial) w := hscope.congr hf
    exact hcancelled (fun w => w.trialId = trial) hscope' hw'

lemma halted_of_request {now : Option Time} {clock : Time} (hs : s.WellFormed)
    (happlies : Applies runId trialId s) :
    Halted runId trialId
      (StoreOp.exec clock (.requestCancellation runId trialId now) s).2
      (StoreOp.exec clock (.requestCancellation runId trialId now) s).2 := by
  have hs' := StoreOp.exec_wellFormed clock (.requestCancellation runId trialId now) hs
  obtain ⟨cancelled, hcancelled⟩ := applyCancellation_of_applies happlies (now.getD clock)
  obtain ⟨⟨run, hrun, hopen⟩, -⟩ := happlies
  obtain ⟨r, hr⟩ := requestCancellation_eq_ok hrun hopen hcancelled
  refine ⟨hs', fun w hw hscope => ?_, fun l hl _ => ?_⟩
  · simp only [StoreOp.exec, hr, StoreOp.commit, closeAfterCancellation_workItems] at hw
    exact applyCancellation_not_queued hcancelled hw hscope
  · rw [lease?, hs'.leases_keyed.lookup_of_mem hl]
    rfl

end Step

/-! ## Runs -/

/-- What happens after a request: passes start and make their calls, and the store is used,
except to create work items or to write `queued` to one. -/
def ContinuesWork : SchedulerEvent → Prop
  | .spawn program => ∃ pass : Pass, program = pass.program
  | .direct op _ => ¬ op.Enqueues
  | .turn _ _ => True

/-- The call of an event returns a work item of the scope to the queue. -/
def CallRequeues (runId : Uuid) (trialId : Option Uuid) (c : SchedulerPool) (e : SchedulerEvent) :
    Prop :=
  ∃ call ∈ c.callOf e, ∃ w ∈ c.shared.workItems, InScope runId trialId w ∧
    call.op.Requeues c.shared w

instance (runId : Uuid) (trialId : Option Uuid) (c : SchedulerPool) (e : SchedulerEvent) :
    Decidable (CallRequeues runId trialId c e) := by
  unfold CallRequeues; infer_instance

/-- After a request that is not refused, made in any state that passes and store operations can
reach, no lease is created for a work item in its scope and none that it moved is queued again,
along every run none of whose steps returns a work item of the scope to the queue. -/
theorem sticks_of_not_requeues {runId : Uuid} {trialId : Option Uuid} {now : Option Time}
    {clock : Time} {pre es : List SchedulerEvent} {e : SchedulerEvent} {c₀ c₁ : SchedulerPool}
    (hpre : ∀ e ∈ pre, StartsPass e) (hc₀ : c₀ = (pool semantics).run ⟨.empty, []⟩ pre)
    (hcall : c₀.callOf e = some ⟨.requestCancellation runId trialId now, clock⟩)
    (happlies : Applies runId trialId c₀.shared) (hc₁ : c₁ = (pool semantics).step c₀ e)
    (hes : ∀ e ∈ es, ContinuesWork e)
    (hkeeps : (pool semantics).Along (fun c e => ¬ CallRequeues runId trialId c e) c₁ es) :
    Sticks runId trialId c₀.shared c₁.shared ((pool semantics).run c₁ es).shared := by
  have hs : c₀.shared.WellFormed := hc₀ ▸ pool_run_shared (I := WellFormed)
    (fun _ call hs => StoreOp.exec_wellFormed call.input call.op hs) .empty pre
  -- passes that were started before the request go on, and do not enqueue either
  have hpasses : ∀ p ∈ c₁.threads, p.Issues fun _ _ op => ¬ op.Enqueues := by
    rw [hc₁]
    refine pool_threads_residual (fun _ _ _ _ h => h.2) ?_ fun p hp => by subst hp; cases hcall
    rw [hc₀]
    refine pool_run_residual (fun _ _ _ _ h => h.2) (by simp) fun e' he' p hp => ?_
    subst hp
    obtain ⟨pass, rfl⟩ := hpre _ he'
    exact pass.program_issues
  have hhalted : Halted runId trialId c₁.shared c₁.shared := by
    rcases pool_shared_cases (S := semantics) c₀ e with ⟨-, hnone⟩ | ⟨call, hsome, hstep⟩
    · cases hcall.symm.trans hnone
    · obtain rfl := Option.some.inj (hcall.symm.trans hsome)
      rw [hc₁, hstep]
      exact halted_of_request hs happlies
  have hend := pool_preserves_along (S := semantics)
    (I := Halted runId trialId c₁.shared) (P := fun _ _ op => ¬ op.Enqueues)
    (D := fun _ op => ¬ op.Enqueues)
    (C := fun s call => ∀ w ∈ s.workItems, InScope runId trialId w → ¬ call.op.Requeues s w)
    (fun s call hcall hkeep h => h.exec call.input (hcall.elim (fun ⟨_, h⟩ => h) id) hkeep)
    (c := c₁) ⟨hhalted, hpasses⟩ (fun e he => ?_)
    (hkeeps.mono fun c e h call hcall w hw hscope hrequeues =>
      h ⟨call, hcall, w, hw, hscope, hrequeues⟩)
  · exact ⟨hend.shared.no_lease, fun w hw hscope _ => hend.shared.not_queued w hw hscope⟩
  · have hcontinues := hes e he
    cases e with
    | turn => trivial
    | direct => exact hcontinues
    | spawn =>
      obtain ⟨pass, rfl⟩ := hcontinues
      exact pass.program_issues

/-! ## Runs with one work item -/

/-- A run is cancelled while a pass works on its only item; the worker returns, and another pass
finds no work. -/
theorem sticks_finishedPass :
    Sticks 1 none
      ((pool semantics).run ⟨.empty, []⟩ (startedRun (sampleItem .default))).shared
      ((pool semantics).step ((pool semantics).run ⟨.empty, []⟩ (startedRun (sampleItem .default)))
        (.direct (.requestCancellation 1 none none) 0)).shared
      ((pool semantics).run ((pool semantics).step
          ((pool semantics).run ⟨.empty, []⟩ (startedRun (sampleItem .default)))
          (.direct (.requestCancellation 1 none none) 0))
        (turns 6 0 0 ++ onePass "second" 0 :: turns 2 1 0)).shared :=
  sticks_of_not_requeues (startedRun_startsPass _) rfl rfl (by decide) rfl
    (by simp [turns, onePass, ContinuesWork]) (by decide)

/-- A work item is leased, its run is cancelled, and its lease expires before it has an attempt:
it is queued and leased again. -/
theorem not_sticks_expiredLease :
    ¬ Sticks 1 none
      ((pool semantics).run (⟨.empty, []⟩ : SchedulerPool) (enqueueItem (sampleItem .default) 0 ++
        [.direct (.acquireLease 4 "first" 0 1 none) 0])).shared
      ((pool semantics).run (⟨.empty, []⟩ : SchedulerPool) (enqueueItem (sampleItem .default) 0 ++
        [.direct (.acquireLease 4 "first" 0 1 none) 0,
          .direct (.requestCancellation 1 none none) 0])).shared
      ((pool semantics).run (⟨.empty, []⟩ : SchedulerPool) (enqueueItem (sampleItem .default) 0 ++
        [.direct (.acquireLease 4 "first" 0 1 none) 0,
          .direct (.requestCancellation 1 none none) 0, .direct (.expireLeases none 1) 1,
          .direct (.acquireLease 4 "second" 1 1 none) 1])).shared := by
  intro h
  have hlease := h.no_lease
  revert hlease
  decide

end AecBench.Execution
