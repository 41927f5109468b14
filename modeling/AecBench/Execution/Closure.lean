import AecBench.Execution.Operational.Consistency

/-!
# Closing plans and runs

Two operations close plans and finish runs: the completion check and the cancellation request.
Both do so only when nothing of the plan or the run is unsettled. They differ in the status a
run ends with. The completion check looks at whether the cancellation of the run was requested.
The cancellation request writes `cancelled` whenever nothing remains, also when only one trial
was asked to stop and that trial happened to be the last unsettled one.

## Main definitions

* `OperationalStore.runSettled` — nothing of the run is unsettled.
* `ClosesExactly` — a plan or a run is closed with everything settled, and the status of the
  run says whether its cancellation was requested.
* `StoreOp.CancelsLastTrial` — the operation is a cancellation request for one trial of a run
  whose own cancellation was not requested, and nothing else of the run is unsettled.

## Main results

* `closesExactly_iff` — a closing operation closes exactly unless it cancels the last trial.
* `closesExactly_along_iff` — the same along every run.
* `not_closesExactly_along` — a run with one trial that is cancelled before it is leased.
-/

namespace AecBench.Execution

open OperationalStore Program

/-- No planned trial and no work item of the run is unsettled. -/
def OperationalStore.runSettled (s : OperationalStore) (runId : Uuid) : Prop :=
  (∀ t ∈ s.plannedTrials, t.runId = runId → t.state.isTerminal = true) ∧
    ∀ w ∈ s.workItems, w.runId = runId → w.state.isTerminal = true

instance (s : OperationalStore) (runId : Uuid) : Decidable (s.runSettled runId) := by
  unfold runSettled; infer_instance

/-- A plan that becomes closed has nothing unsettled; nor has a run that becomes completed or
cancelled, and it becomes cancelled exactly if its cancellation was requested. -/
structure ClosesExactly (s s' : OperationalStore) : Prop where
  plan_settled : ∀ planId, (s.plan? planId).map PlanRecord.state ≠ some .closed →
    (s'.plan? planId).map PlanRecord.state = some .closed → s'.planSettled planId
  run_settled : ∀ runId r', s'.run? runId = some r' →
    r'.status = .completed ∨ r'.status = .cancelled →
    (s.run? runId).map RunRecord.status ≠ some r'.status → s'.runSettled runId
  run_status : ∀ runId r', s'.run? runId = some r' →
    r'.status = .completed ∨ r'.status = .cancelled →
    (s.run? runId).map RunRecord.status ≠ some r'.status →
    (r'.status = .cancelled ↔ r'.cancellationRequestedAt.isSome)

/-- The status is final: a cancellation request leaves the run alone. -/
def RunStatus.isFinal : RunStatus → Bool
  | .completed | .failed | .cancelled => true
  | _ => false

lemma RunStatus.isFinal_iff (status : RunStatus) :
    status.isFinal = true ↔ status = .completed ∨ status = .failed ∨ status = .cancelled := by
  cases status <;> simp [isFinal]

namespace StoreOp

/-- What the operation does to plans and runs, if it is one of the two that close them, is
exact. -/
def ClosesExactly (clock : Time) (s : OperationalStore) : ∀ {β : Type}, StoreOp β → Prop
  | _, .requestCancellation runId trialId now =>
    Execution.ClosesExactly s (exec clock (.requestCancellation runId trialId now) s).2
  | _, .completePlanIfTerminal planId runId now =>
    Execution.ClosesExactly s (exec clock (.completePlanIfTerminal planId runId now) s).2
  | _, _ => True

/-- The cancellation of one trial is requested, in a run that is not final and whose own
cancellation was not requested, and the trial's planned or queued rows are all that is
unsettled in the run. -/
def CancelsLastTrial (s : OperationalStore) : ∀ {β : Type}, StoreOp β → Prop
  | _, .requestCancellation runId (some trialId) _ =>
    (∃ run, s.run? runId = some run ∧ run.status.isFinal = false ∧
      run.cancellationRequestedAt = none) ∧
    (∃ trial, s.plannedTrial? trialId = some trial ∧ trial.runId = runId) ∧
    (∀ t ∈ s.plannedTrials, t.runId = runId →
      t.state.isTerminal = true ∨ t.trialId = trialId ∧ (t.state = .planned ∨ t.state = .queued)) ∧
    ∀ w ∈ s.workItems, w.runId = runId →
      w.state.isTerminal = true ∨ w.trialId = trialId ∧ w.state = .queued
  | _, _ => False

end StoreOp

/-! ## What the counts say -/

section Counts

variable {s : OperationalStore}

lemma remaining_eq_zero_iff (runId : Uuid) : s.remaining runId = 0 ↔ s.runSettled runId := by
  simp [remaining, runSettled, List.countP_eq_zero]

lemma settled_of_scopeComplete {trialInScope : PlannedTrialRecord → Bool}
    {workInScope : WorkItemRecord → Bool} (h : s.scopeComplete trialInScope workInScope = true) :
    (∀ t ∈ s.plannedTrials, trialInScope t = true → t.state.isTerminal = true) ∧
      ∀ w ∈ s.workItems, workInScope w = true → w.state.isTerminal = true := by
  simp only [scopeComplete, Bool.and_eq_true, decide_eq_true_eq, List.countP_eq_zero,
    Bool.not_eq_true', not_and, Bool.not_eq_false] at h
  exact ⟨h.1.2, h.2⟩

/-- The trials and work items of a run after one trial was asked to stop are settled exactly if
those of the trial were only planned or queued and the others were settled. -/
lemma runSettled_cancelWork_iff (runId trialId : Uuid) (now : Time) :
    (s.cancelWork (fun w => w.trialId = trialId) (fun t => t.trialId = trialId) now).runSettled
        runId ↔
      (∀ t ∈ s.plannedTrials, t.runId = runId → t.state.isTerminal = true ∨
        t.trialId = trialId ∧ (t.state = .planned ∨ t.state = .queued)) ∧
      ∀ w ∈ s.workItems, w.runId = runId →
        w.state.isTerminal = true ∨ w.trialId = trialId ∧ w.state = .queued := by
  have htrial (t : PlannedTrialRecord) :
      (t.trialId = trialId ∧ (t.state = .planned ∨ t.state = .queued) ∨
        t.state.isTerminal = true) ↔
      (if t.trialId = trialId ∧ (t.state = .planned ∨ t.state = .queued) then
        { t with state := .cancelled, updatedAt := now } else t).state.isTerminal = true := by
    split_ifs with h <;> simp [h, TrialState.isTerminal]
  have hwork (w : WorkItemRecord) :
      (w.trialId = trialId ∧ w.state = .queued ∨ w.state.isTerminal = true) ↔
      (if w.trialId = trialId ∧ (w.state = .queued ∨ w.state = .leased ∨ w.state = .running) then
        { w with state := cancelledState w.state, updatedAt := now } else w).state.isTerminal
          = true := by
    split_ifs with h
    · obtain ⟨rfl, h | h | h⟩ := h <;> simp [h, cancelledState, WorkItemState.isTerminal]
    · by_cases hq : w.trialId = trialId ∧ w.state = .queued
      · exact absurd ⟨hq.1, .inl hq.2⟩ h
      · simp [hq]
  simp only [runSettled, cancelWork, setWorkItems, setPlannedTrials, Table.mem_updateWhere]
  constructor
  · rintro ⟨ht, hw⟩
    refine ⟨fun t hmem hrun => ?_, fun w hmem hrun => ?_⟩
    · refine ((htrial t).mpr (ht _ ⟨t, hmem, rfl⟩ ?_)).symm
      split_ifs <;> exact hrun
    · refine ((hwork w).mpr (hw _ ⟨w, hmem, rfl⟩ ?_)).symm
      split_ifs <;> exact hrun
  · rintro ⟨ht, hw⟩
    constructor
    · rintro _ ⟨t, hmem, rfl⟩ hrun
      refine (htrial t).mp (ht t hmem ?_).symm
      split_ifs at hrun <;> exact hrun
    · rintro _ ⟨w, hmem, rfl⟩ hrun
      refine (hwork w).mp (hw w hmem ?_).symm
      split_ifs at hrun <;> exact hrun

end Counts

/-! ## One step -/

section Step

variable {s s' : OperationalStore}

/-- An operation that changes neither the state of plans nor the status of runs closes
nothing. -/
lemma ClosesExactly.of_unchanged
    (hplan : ∀ id, (s'.plan? id).map PlanRecord.state = (s.plan? id).map PlanRecord.state)
    (hrun : ∀ id, (s'.run? id).map RunRecord.status = (s.run? id).map RunRecord.status) :
    ClosesExactly s s' where
  plan_settled id hbefore hafter := absurd ((hplan id).symm.trans hafter) hbefore
  run_settled id r' hr' _ hmoved :=
    absurd (by rw [← hrun, hr']; rfl) hmoved
  run_status id r' hr' _ hmoved :=
    absurd (by rw [← hrun, hr']; rfl) hmoved

variable {now : Time}

lemma selected_of_closed {p : PlanRecord → Prop} [DecidablePred p] {planId : Uuid}
    (hbefore : (s.plan? planId).map PlanRecord.state ≠ some .closed)
    (hafter : ((s.setPlans p fun r => { r with state := .closed, updatedAt := now }).plan?
      planId).map PlanRecord.state = some .closed) :
    ∃ r, s.plan? planId = some r ∧ r.planId = planId ∧ p r := by
  rw [plan?_setPlans s (fun _ => by rfl)] at hafter
  cases hr : s.plan? planId with
  | none => simp [hr] at hafter
  | some r =>
    rw [hr] at hbefore hafter
    simp only [Option.map_some, Option.some.injEq] at hbefore hafter
    refine ⟨r, rfl, (Table.mem_of_lookup hr).2, ?_⟩
    by_contra hp
    rw [if_neg hp] at hafter
    exact hbefore (congrArg some hafter)

variable {runId : Uuid}

/-- A run whose status has changed is the one that was finished, with its final status. -/
lemma finished_of_moved {id : Uuid} {status : RunStatus} {r' : RunRecord}
    (hr' : (s.finishRun runId status now).run? id = some r')
    (hmoved : (s.run? id).map RunRecord.status ≠ some r'.status) :
    ∃ r, s.run? id = some r ∧ id = runId ∧ r'.status = status ∧
      r'.cancellationRequestedAt = r.cancellationRequestedAt := by
  rw [finishRun, run?_setRuns s (fun _ => by rfl)] at hr'
  cases hr : s.run? id with
  | none => simp [hr] at hr'
  | some r =>
    rw [hr] at hr' hmoved
    simp only [Option.map_some, Option.some.injEq] at hr' hmoved
    have hid : r.runId = id := (Table.mem_of_lookup hr).2
    split_ifs at hr' with h
    · subst hr'
      exact ⟨r, rfl, hid.symm.trans h, rfl, rfl⟩
    · subst hr'
      exact absurd rfl hmoved

lemma closesExactly_closePlan {planId : Uuid} {run : RunRecord} (hrun : s.run? runId = some run)
    (hcomplete : s.scopeComplete (fun t => t.planId = planId) (fun w => w.planId = planId) = true) :
    ClosesExactly s (s.closePlan planId runId run now) := by
  have hsettled : s.planSettled planId := by
    obtain ⟨ht, hw⟩ := settled_of_scopeComplete hcomplete
    exact ⟨fun t hmem h => ht t hmem (by simpa using h), fun w hmem h => hw w hmem (by simpa using h)⟩
  have hplan {id : Uuid} (hbefore : (s.plan? id).map PlanRecord.state ≠ some .closed)
      (hafter : ((s.setPlans (fun p => p.planId = planId) fun p =>
        { p with state := .closed, updatedAt := now }).plan? id).map PlanRecord.state =
          some .closed) : s.planSettled id := by
    obtain ⟨r, -, hid, hp⟩ := selected_of_closed hbefore hafter
    rw [← hid, hp]
    exact hsettled
  unfold closePlan
  dsimp only
  split_ifs with hscope
  · have hrunSettled : s.runSettled runId := by
      obtain ⟨ht, hw⟩ := settled_of_scopeComplete hscope
      exact ⟨fun t hmem h => ht t hmem (by simpa using h),
        fun w hmem h => hw w hmem (by simpa using h)⟩
    refine ⟨fun id => hplan, fun id r' hr' _ hmoved => ?_, fun id r' hr' _ hmoved => ?_⟩
    · obtain ⟨r, -, rfl, -, -⟩ := finished_of_moved hr' hmoved
      exact hrunSettled
    · obtain ⟨r, hr, rfl, hstatus, hrequested⟩ := finished_of_moved hr' hmoved
      obtain rfl : run = r := Option.some.inj (hrun.symm.trans hr)
      rw [hstatus, hrequested, completionStatus]
      split_ifs with h <;> simp [h]
  · exact ⟨fun id => hplan, fun id r' hr' _ hmoved => absurd (congrArg _ hr') hmoved,
      fun id r' hr' _ hmoved => absurd (congrArg _ hr') hmoved⟩

variable {trialId : Option Uuid}

lemma applyCancellation_plan? (h : s.applyCancellation runId trialId now = .ok s') (id : Uuid) :
    s'.plan? id = s.plan? id := by
  rcases applyCancellation_ok h with ⟨-, rfl⟩ | ⟨trial, row, -, -, -, rfl⟩ <;> rfl

lemma applyCancellation_status (h : s.applyCancellation runId trialId now = .ok s') (id : Uuid) :
    (s'.run? id).map RunRecord.status = (s.run? id).map RunRecord.status := by
  rcases applyCancellation_ok h with ⟨-, rfl⟩ | ⟨trial, row, -, -, -, rfl⟩
  · have hlook : ((s.markCancellationRequested runId now).run? id).map RunRecord.status =
        (s.run? id).map RunRecord.status := by
      rw [markCancellationRequested, run?_setRuns s (fun _ => by rfl), Option.map_map]
      congr 1
      funext r
      simp only [Function.comp_apply]
      split_ifs <;> rfl
    exact hlook
  · rfl

lemma markCancellationRequested_isSome {r : RunRecord}
    (h : (s.markCancellationRequested runId now).run? runId = some r) :
    r.cancellationRequestedAt.isSome := by
  rw [markCancellationRequested, run?_setRuns s (fun _ => by rfl)] at h
  cases hr : s.run? runId with
  | none => simp [hr] at h
  | some r₀ =>
    rw [hr] at h
    simp only [Option.map_some, Option.some.injEq] at h
    subst h
    rw [if_pos (Table.mem_of_lookup hr).2]
    cases r₀.cancellationRequestedAt <;> rfl

/-- The cancellation request closes settled plans, and a settled run, whose new status is
exact if the run has the time of a request. -/
lemma closesExactly_closeAfterCancellation {cancelled : OperationalStore}
    (hcancelled : s.applyCancellation runId trialId now = .ok cancelled)
    (hrequested : cancelled.runSettled runId → ∀ r, cancelled.run? runId = some r →
      r.cancellationRequestedAt.isSome) :
    ClosesExactly s (cancelled.closeAfterCancellation runId now) := by
  have hplan {id : Uuid} (hbefore : (s.plan? id).map PlanRecord.state ≠ some .closed)
      (hafter : ((cancelled.closeSettledPlans runId now).plan? id).map PlanRecord.state =
        some .closed) : cancelled.planSettled id := by
    rw [← applyCancellation_plan? hcancelled] at hbefore
    obtain ⟨r, -, hid, -, hp⟩ := selected_of_closed hbefore hafter
    rw [← hid]
    exact hp
  have hstatus := applyCancellation_status hcancelled
  unfold closeAfterCancellation
  dsimp only
  split_ifs with hremaining
  · have hsettled : cancelled.runSettled runId := (remaining_eq_zero_iff runId).mp hremaining
    refine ⟨fun id => hplan, fun id r' hr' _ hmoved => ?_, fun id r' hr' _ hmoved => ?_⟩
    · rw [← hstatus] at hmoved
      obtain ⟨r, -, rfl, -, -⟩ := finished_of_moved (s := cancelled.closeSettledPlans runId now)
        hr' hmoved
      exact hsettled
    · rw [← hstatus] at hmoved
      obtain ⟨r, hr, rfl, hfinal, hreq⟩ :=
        finished_of_moved (s := cancelled.closeSettledPlans runId now) hr' hmoved
      rw [hfinal, hreq]
      exact iff_of_true rfl (hrequested hsettled r hr)
  · refine ⟨fun id => hplan, fun id r' hr' _ hmoved => ?_, fun id r' hr' _ hmoved => ?_⟩
    all_goals
      rw [← hstatus] at hmoved
      exact absurd (congrArg (Option.map RunRecord.status) hr') hmoved

lemma requestCancellation_eq_ok {run : RunRecord} {cancelled : OperationalStore}
    (hrun : s.run? runId = some run) (hopen : run.status.isFinal = false)
    (hcancelled : s.applyCancellation runId trialId now = .ok cancelled) :
    ∃ r, s.requestCancellation runId trialId now =
      .ok (r, cancelled.closeAfterCancellation runId now) := by
  have hupdates : Updates s (cancelled.closeAfterCancellation runId now) :=
    (Updates.applyCancellation hcancelled).trans (.closeAfterCancellation _ _ _)
  obtain ⟨r, hr, -⟩ := (Extends.updates hupdates).run? hrun
  have hopen' : ¬ (run.status = .completed ∨ run.status = .failed ∨ run.status = .cancelled) := by
    rw [← RunStatus.isFinal_iff, hopen]
    exact Bool.false_ne_true
  refine ⟨r, ?_⟩
  simp only [requestCancellation, bind_eq_ok, requireRun, requireRow_eq_ok]
  refine ⟨run, hrun, ?_⟩
  rw [if_neg hopen']
  simp only [bind_eq_ok, requireRow_eq_ok, pure_eq_ok]
  exact ⟨cancelled, hcancelled, r, hr, rfl⟩

lemma not_closesExactly_of_cancelsLastTrial {clock : Time} {trialId : Uuid} {now : Option Time}
    (h : (StoreOp.requestCancellation runId (some trialId) now).CancelsLastTrial s) :
    ¬ (StoreOp.requestCancellation runId (some trialId) now).ClosesExactly clock s := by
  obtain ⟨⟨run, hrun, hopen, hnone⟩, ⟨trial, htrial, hbelongs⟩, hsettled⟩ := h
  set t := now.getD clock with ht
  have hcancelled : s.applyCancellation runId (some trialId) t =
      .ok (s.cancelWork (fun w => w.trialId = trialId) (fun t => t.trialId = trialId) t) := by
    simp only [applyCancellation, bind_eq_ok, requirePlannedTrial, requireRow_eq_ok]
    exact ⟨trial, htrial, by rw [if_neg (by simpa using hbelongs)]; rfl⟩
  obtain ⟨r, hr⟩ := requestCancellation_eq_ok hrun hopen hcancelled
  have hexec : (StoreOp.exec clock (.requestCancellation runId (some trialId) now) s).2 =
      (s.cancelWork (fun w => w.trialId = trialId) (fun t => t.trialId = trialId)
        t).closeAfterCancellation runId t := by
    simp only [StoreOp.exec, ← ht, hr, StoreOp.commit]
  have hremaining : ((s.cancelWork (fun w => w.trialId = trialId) (fun t => t.trialId = trialId)
      t).closeSettledPlans runId t).remaining runId = 0 :=
    (remaining_eq_zero_iff runId).mpr ((runSettled_cancelWork_iff runId trialId t).mpr hsettled)
  intro hexact
  simp only [StoreOp.ClosesExactly, hexec, closeAfterCancellation, hremaining, if_true] at hexact
  have hfinal : (((s.cancelWork (fun w => w.trialId = trialId) (fun t => t.trialId = trialId)
      t).closeSettledPlans runId t).finishRun runId .cancelled t).run? runId =
      some { run with status := .cancelled, finishedAt := run.finishedAt <|> some t
                      updatedAt := t } := by
    rw [finishRun, run?_setRuns _ (fun _ => by rfl)]
    have hsame : ((s.cancelWork (fun w => w.trialId = trialId) (fun t => t.trialId = trialId)
      t).closeSettledPlans runId t).run? runId = some run := hrun
    rw [hsame, Option.map_some, if_pos (Table.mem_of_lookup hrun).2]
  have hmoved : (s.run? runId).map RunRecord.status ≠ some .cancelled := by
    rw [hrun]
    intro heq
    rw [Option.some.inj heq] at hopen
    cases hopen
  have hstatus := (hexact.run_status runId _ hfinal (.inr rfl) hmoved).mp rfl
  simp [hnone] at hstatus

/-- A closing operation closes exactly unless it cancels the last unsettled trial of a run. -/
theorem closesExactly_iff {β : Type} (clock : Time) (op : StoreOp β) (s : OperationalStore) :
    op.ClosesExactly clock s ↔ ¬ op.CancelsLastTrial s := by
  have hsame : Execution.ClosesExactly s s := .of_unchanged (fun _ => rfl) fun _ => rfl
  cases op with
  | completePlanIfTerminal planId runId now =>
    refine iff_of_true ?_ id
    rcases StoreOp.commit_cases s (s.completePlanIfTerminal planId runId (now.getD clock)) with
      h | ⟨a, h⟩
    · simp only [StoreOp.ClosesExactly, StoreOp.exec, h, hsame]
    · rcases completePlanIfTerminal_ok h with hs' | ⟨run, hrun, hcomplete, hs'⟩
      · simp only [StoreOp.ClosesExactly, StoreOp.exec, hs', hsame]
      · simp only [StoreOp.ClosesExactly, StoreOp.exec, hs']
        exact closesExactly_closePlan hrun hcomplete
  | requestCancellation runId trialId now =>
    constructor
    · intro hexact hlast
      cases trialId with
      | none => exact hlast
      | some trialId => exact not_closesExactly_of_cancelsLastTrial hlast hexact
    · intro hlast
      rcases StoreOp.commit_cases s (s.requestCancellation runId trialId (now.getD clock)) with
        h | ⟨a, h⟩
      · simp only [StoreOp.ClosesExactly, StoreOp.exec, h, hsame]
      · obtain ⟨run, hrun, ⟨-, hs'⟩ | ⟨hopen, cancelled, hcancelled, hs'⟩⟩ :=
          requestCancellation_ok h
        · simp only [StoreOp.ClosesExactly, StoreOp.exec, hs', hsame]
        · simp only [StoreOp.ClosesExactly, StoreOp.exec, hs']
          refine closesExactly_closeAfterCancellation hcancelled fun hsettled r hr => ?_
          rcases applyCancellation_ok hcancelled with ⟨rfl, rfl⟩ |
            ⟨trial, row, rfl, htrial, hbelongs, rfl⟩
          · exact markCancellationRequested_isSome hr
          · -- the trial was not the last one, so the run itself was asked to stop before
            by_contra hnone
            have hsame : run = r := Option.some.inj (hrun.symm.trans hr)
            subst hsame
            refine hlast ⟨⟨run, hrun, ?_, by simpa using hnone⟩, ⟨row, htrial, hbelongs⟩,
              (runSettled_cancelWork_iff runId trial _).mp hsettled⟩
            rw [← RunStatus.isFinal_iff, Bool.not_eq_true] at hopen
            exact hopen
  | _ => exact iff_of_true trivial id

end Step

/-! ## Runs -/

/-- What an operation called in a pool does to plans and runs is exact. -/
def CallClosesExactly {Site : Type} (c : Pool Site StoreOp StoreError OperationalStore)
    (e : PoolEvent Site StoreOp StoreError Time) : Prop :=
  ∀ call, c.callOf e = some call → call.op.ClosesExactly call.input c.shared

/-- An operation called in a pool cancels the last unsettled trial of a run. -/
def CallCancelsLastTrial {Site : Type} (c : Pool Site StoreOp StoreError OperationalStore)
    (e : PoolEvent Site StoreOp StoreError Time) : Prop :=
  ∃ call, c.callOf e = some call ∧ call.op.CancelsLastTrial c.shared

/-- In every run of any programs and operations on a database, every closing operation closes
exactly if and only if none of them cancels the last unsettled trial of a run. -/
theorem closesExactly_along_iff {Site : Type}
    (es : List (PoolEvent Site StoreOp StoreError Time)) :
    (pool semantics).Along CallClosesExactly ⟨.empty, []⟩ es ↔
      (pool semantics).Along (fun c e => ¬ CallCancelsLastTrial c e) ⟨.empty, []⟩ es := by
  have hstep (c : Pool Site StoreOp StoreError OperationalStore)
      (e : PoolEvent Site StoreOp StoreError Time) :
      CallClosesExactly c e ↔ ¬ CallCancelsLastTrial c e := by
    simp only [CallClosesExactly, CallCancelsLastTrial, closesExactly_iff, not_exists, not_and]
  exact ⟨Machine.Along.mono fun c e => (hstep c e).mp, Machine.Along.mono fun c e => (hstep c e).mpr⟩

/-- A run with one planned and queued trial, of which only the trial is cancelled, ends
cancelled although its own cancellation was not requested. -/
theorem not_closesExactly_along :
    ¬ (pool semantics).Along CallClosesExactly
      (⟨.empty, []⟩ : Pool Unit StoreOp StoreError OperationalStore)
      (enqueueItem (sampleItem .default) 0 ++
        [.direct (.requestCancellation 1 (some 3) none) 0]) := by
  rw [Machine.along_append]
  rintro ⟨-, hexact, -⟩
  refine (closesExactly_iff _ _ _).mp (hexact _ rfl) ?_
  exact ⟨⟨_, rfl, by decide, by decide⟩, ⟨_, rfl, by decide⟩, by decide, by decide⟩

end AecBench.Execution
