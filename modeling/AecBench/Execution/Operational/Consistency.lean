import AecBench.Execution.Operational.Operations

/-!
# The consistency of the operational database

Every operation either updates rows without touching the columns that identify them, or does
that and inserts one row. From this one case split follow what the schema of the database
promises: keys are unique, every reference has its row, a work item and its trial and plan
belong to one run, and a work item has at most one active lease.

## Main definitions

* `RunRecord.frozen` and its siblings — a row with its mutable columns erased.
* `OperationalStore.Updates` — an update that keeps every fixed column and activates no lease.
* `OperationalStore.Inserts` — the insertion of one row that the schema allows.
* `OperationalStore.WellFormed` — the promises of the schema.
* `OperationalStore.Extends` — what any number of operations does to the tables.

## Main results

* `StoreOp.Effect.updates_or_inserts` — the case split.
* `StoreOp.exec_wellFormed` — operations keep the database well formed.
* `StoreOp.exec_extends` — operations only extend the tables.
* `StoreOp.exec_lease_inactive` — a lease that is not active never becomes active again.
-/

namespace AecBench.Execution

/-! ## Fixed columns -/

def RunRecord.frozen (r : RunRecord) : RunRecord :=
  { r with status := .created, startedAt := none, finishedAt := none, updatedAt := 0
           cancellationRequestedAt := none }

def PlanRecord.frozen (p : PlanRecord) : PlanRecord := { p with state := .draft, updatedAt := 0 }

def PlannedTrialRecord.frozen (t : PlannedTrialRecord) : PlannedTrialRecord :=
  { t with state := .planned, updatedAt := 0 }

def WorkItemRecord.frozen (w : WorkItemRecord) : WorkItemRecord :=
  { w with state := .planned, updatedAt := 0, availableAt := 0 }

def LeaseRecord.frozen (l : LeaseRecord) : LeaseRecord :=
  { l with expiresAt := 0, heartbeatAt := 0, state := .active, releasedAt := none }

def AttemptRecord.frozen (a : AttemptRecord) : AttemptRecord :=
  { a with state := .created, startedAt := none, finishedAt := none, updatedAt := 0
           failure := none, reconciliationState := .notRequired
           cancellationStatus := .notRequested }

def BackendSubmissionRecord.frozen (b : BackendSubmissionRecord) : BackendSubmissionRecord :=
  { b with externalId := none, externalWorkId := none, state := .submitted, updatedAt := 0
           cancellationStatus := .notRequested, reconciliationState := .notRequired }

namespace OperationalStore

/-! ## Updates -/

/-- Only mutable columns change, and no lease becomes active. -/
structure Updates (s s' : OperationalStore) : Prop where
  runs : s'.runs.map RunRecord.frozen = s.runs.map RunRecord.frozen
  plans : s'.plans.map PlanRecord.frozen = s.plans.map PlanRecord.frozen
  plannedTrials :
    s'.plannedTrials.map PlannedTrialRecord.frozen = s.plannedTrials.map PlannedTrialRecord.frozen
  workItems : s'.workItems.map WorkItemRecord.frozen = s.workItems.map WorkItemRecord.frozen
  leases : s'.leases.map LeaseRecord.frozen = s.leases.map LeaseRecord.frozen
  attempts : s'.attempts.map AttemptRecord.frozen = s.attempts.map AttemptRecord.frozen
  submissions : s'.submissions.map BackendSubmissionRecord.frozen =
    s.submissions.map BackendSubmissionRecord.frozen
  active : ∀ l' ∈ s'.leases, l'.state = .active →
    ∃ l ∈ s.leases, l.frozen = l'.frozen ∧ l.state = .active

namespace Updates

variable {s s' s'' : OperationalStore}

protected lemma refl (s : OperationalStore) : Updates s s :=
  ⟨rfl, rfl, rfl, rfl, rfl, rfl, rfl, fun l hl hs => ⟨l, hl, rfl, hs⟩⟩

protected lemma trans (h : Updates s s') (h' : Updates s' s'') : Updates s s'' where
  runs := h'.runs.trans h.runs
  plans := h'.plans.trans h.plans
  plannedTrials := h'.plannedTrials.trans h.plannedTrials
  workItems := h'.workItems.trans h.workItems
  leases := h'.leases.trans h.leases
  attempts := h'.attempts.trans h.attempts
  submissions := h'.submissions.trans h.submissions
  active l'' hl'' hs'' := by
    obtain ⟨l', hl', hf', hs'⟩ := h'.active l'' hl'' hs''
    obtain ⟨l, hl, hf, hs⟩ := h.active l' hl' hs'
    exact ⟨l, hl, hf.trans hf', hs⟩

lemma setRuns (s : OperationalStore) (p : RunRecord → Prop) [DecidablePred p]
    {f : RunRecord → RunRecord} (hf : ∀ r, (f r).frozen = r.frozen) : Updates s (s.setRuns p f) :=
  { Updates.refl s with runs := Table.map_updateWhere (fun r _ => hf r) _ }

lemma setPlans (s : OperationalStore) (p : PlanRecord → Prop) [DecidablePred p]
    {f : PlanRecord → PlanRecord} (hf : ∀ r, (f r).frozen = r.frozen) :
    Updates s (s.setPlans p f) :=
  { Updates.refl s with plans := Table.map_updateWhere (fun r _ => hf r) _ }

lemma setPlannedTrials (s : OperationalStore) (p : PlannedTrialRecord → Prop) [DecidablePred p]
    {f : PlannedTrialRecord → PlannedTrialRecord} (hf : ∀ r, (f r).frozen = r.frozen) :
    Updates s (s.setPlannedTrials p f) :=
  { Updates.refl s with plannedTrials := Table.map_updateWhere (fun r _ => hf r) _ }

lemma setWorkItems (s : OperationalStore) (p : WorkItemRecord → Prop) [DecidablePred p]
    {f : WorkItemRecord → WorkItemRecord} (hf : ∀ r, (f r).frozen = r.frozen) :
    Updates s (s.setWorkItems p f) :=
  { Updates.refl s with workItems := Table.map_updateWhere (fun r _ => hf r) _ }

lemma setAttempts (s : OperationalStore) (p : AttemptRecord → Prop) [DecidablePred p]
    {f : AttemptRecord → AttemptRecord} (hf : ∀ r, (f r).frozen = r.frozen) :
    Updates s (s.setAttempts p f) :=
  { Updates.refl s with attempts := Table.map_updateWhere (fun r _ => hf r) _ }

lemma setSubmissions (s : OperationalStore) (p : BackendSubmissionRecord → Prop)
    [DecidablePred p] {f : BackendSubmissionRecord → BackendSubmissionRecord}
    (hf : ∀ r, (f r).frozen = r.frozen) : Updates s (s.setSubmissions p f) :=
  { Updates.refl s with submissions := Table.map_updateWhere (fun r _ => hf r) _ }

lemma setLeases (s : OperationalStore) (p : LeaseRecord → Prop) [DecidablePred p]
    {f : LeaseRecord → LeaseRecord} (hf : ∀ r, (f r).frozen = r.frozen)
    (hactive : ∀ r, p r → (f r).state = .active → r.state = .active) :
    Updates s (s.setLeases p f) :=
  { Updates.refl s with
    leases := Table.map_updateWhere (fun r _ => hf r) _
    active := by
      rintro l' hl' hs'
      obtain ⟨l, hl, rfl⟩ := Table.mem_updateWhere.mp hl'
      refine ⟨l, hl, ?_, ?_⟩
      · split_ifs
        · exact (hf l).symm
        · rfl
      · split_ifs at hs' with hp
        · exact hactive l hp hs'
        · exact hs' }

lemma markLeased (s : OperationalStore) (workId : Uuid) (now : Time) :
    Updates s (s.markLeased workId now) := setWorkItems s _ fun _ => by rfl

lemma endLease (s : OperationalStore) (leaseId : Uuid) : Updates s (s.endLease leaseId) :=
  setLeases s _ (fun _ => by rfl) fun _ _ h => by cases h

lemma expireLease (s : OperationalStore) (now : Time) (lease : LeaseRecord) :
    Updates s (s.expireLease now lease) where
  runs := rfl
  plans := rfl
  plannedTrials := Table.map_updateWhere (fun _ _ => by rfl) _
  workItems := Table.map_updateWhere (fun _ _ => by rfl) _
  leases := Table.map_updateWhere (fun _ _ => by rfl) _
  attempts := Table.map_updateWhere (fun _ _ => by rfl) _
  submissions := Table.map_updateWhere (fun _ _ => by rfl) _
  active := (endLease s lease.leaseId).active

lemma sweep (s : OperationalStore) (now : Time) (runId : Option Uuid) :
    Updates s (s.sweep now runId) :=
  sweep_induction (P := Updates s) (fun s' lease _ h => h.trans (expireLease s' now lease))
    (.refl s)

lemma release (s : OperationalStore) (leaseId workId : Uuid) (now : Time) :
    Updates s (s.release leaseId workId now) :=
  .trans (setLeases s _ (fun _ => by rfl) fun _ _ h => by cases h) (setWorkItems _ _ fun _ => by rfl)

lemma requeue (s : OperationalStore) (workId trialId : Uuid) (availableAt now : Time) :
    Updates s (s.requeue workId trialId availableAt now) :=
  .trans (setWorkItems s _ fun _ => by rfl) (setPlannedTrials _ _ fun _ => by rfl)

lemma finishRun (s : OperationalStore) (runId : Uuid) (status : RunStatus) (now : Time) :
    Updates s (s.finishRun runId status now) := setRuns s _ fun _ => by rfl

lemma closePlan (s : OperationalStore) (planId runId : Uuid) (run : RunRecord) (now : Time) :
    Updates s (s.closePlan planId runId run now) := by
  unfold OperationalStore.closePlan
  dsimp only
  split_ifs
  · exact .trans (setPlans s _ fun _ => by rfl) (finishRun _ _ _ _)
  · exact setPlans s _ fun _ => by rfl

lemma cancelWork (s : OperationalStore) (inScope : WorkItemRecord → Prop)
    [DecidablePred inScope] (trialInScope : PlannedTrialRecord → Prop)
    [DecidablePred trialInScope] (now : Time) :
    Updates s (s.cancelWork inScope trialInScope now) :=
  .trans (setWorkItems s _ fun _ => by rfl) (setPlannedTrials _ _ fun _ => by rfl)

lemma applyCancellation {runId : Uuid} {trialId : Option Uuid} {now : Time}
    (h : s.applyCancellation runId trialId now = .ok s') : Updates s s' := by
  rcases applyCancellation_ok h with ⟨-, rfl⟩ | ⟨trial, row, -, -, -, rfl⟩
  · exact .trans (setRuns s _ fun _ => by rfl) (cancelWork _ _ _ _)
  · exact cancelWork _ _ _ _

lemma closeAfterCancellation (s : OperationalStore) (runId : Uuid) (now : Time) :
    Updates s (s.closeAfterCancellation runId now) := by
  unfold OperationalStore.closeAfterCancellation
  dsimp only
  split_ifs
  · exact .trans (setPlans s _ fun _ => by rfl) (finishRun _ _ _ _)
  · exact setPlans s _ fun _ => by rfl

end Updates

variable {id : Uuid}

lemma Updates.lease?_eq_none {s s' : OperationalStore} (h : Updates s s')
    (hnone : s'.lease? id = none) : s.lease? id = none := by
  refine Table.lookup_eq_none_iff.mpr fun l hl heq => ?_
  obtain ⟨l', hl', hf⟩ := Table.mem_of_map_eq h.leases.symm hl
  have hid : l'.leaseId = l.leaseId := by
    rw [← show l'.frozen.leaseId = l'.leaseId from rfl, hf]
    rfl
  exact Table.lookup_eq_none_iff.mp hnone l' hl' (hid.trans heq)

/-! ## Insertions -/

/-- One row is inserted, as the schema allows; a lease is inserted after updates and makes its
work item leased. -/
inductive Inserts (s : OperationalStore) : OperationalStore → Prop
  | run {r : RunRecord} (hnew : s.run? r.runId = none) :
      Inserts s { s with runs := s.runs ++ [r] }
  | plan {p : PlanRecord} (hnew : s.plan? p.planId = none) (hrun : (s.run? p.runId).isSome) :
      Inserts s { s with plans := s.plans ++ [p] }
  | plannedTrial {t : PlannedTrialRecord} (hnew : s.plannedTrial? t.trialId = none)
      (hplan : ∃ plan, s.plan? t.planId = some plan ∧ plan.runId = t.runId) :
      Inserts s { s with plannedTrials := s.plannedTrials ++ [t] }
  | workItem {w : WorkItemRecord} (hnew : s.workItem? w.workId = none)
      (htrial : ∃ trial, s.plannedTrial? w.trialId = some trial ∧ trial.planId = w.planId ∧
        trial.runId = w.runId)
      (hfree : ∀ w' ∈ s.workItems, w'.trialId ≠ w.trialId) :
      Inserts s { s with workItems := s.workItems ++ [w] }
  | attempt {a : AttemptRecord} (hnew : s.attempt? a.attemptId = none)
      (hwork : (s.workItem? a.workId).isSome)
      (hlease : ∀ id ∈ a.leaseId, ∃ l, s.lease? id = some l ∧ l.workId = a.workId) :
      Inserts s { s with attempts := s.attempts ++ [a] }
  | submission {b : BackendSubmissionRecord} :
      Inserts s { s with submissions := s.submissions ++ [b] }
  | lease {s₁ : OperationalStore} {lease : LeaseRecord} {now : Time} (hupdates : Updates s s₁)
      (hgrant : s₁.Grantable lease) (hwork : ∃ w ∈ s₁.workItems, w.workId = lease.workId) :
      Inserts s (s₁.grant lease now)

/-! ## The promises of the schema -/

/-- Keys are unique, every reference has its row, the rows of a work item belong to one run,
and no work item has two active leases. -/
structure WellFormed (s : OperationalStore) : Prop where
  runs_keyed : Table.Keyed RunRecord.runId s.runs
  plans_keyed : Table.Keyed PlanRecord.planId s.plans
  trials_keyed : Table.Keyed PlannedTrialRecord.trialId s.plannedTrials
  works_keyed : Table.Keyed WorkItemRecord.workId s.workItems
  leases_keyed : Table.Keyed LeaseRecord.leaseId s.leases
  attempts_keyed : Table.Keyed AttemptRecord.attemptId s.attempts
  plan_run : ∀ p ∈ s.plans, ∃ run ∈ s.runs, run.runId = p.runId
  trial_plan : ∀ t ∈ s.plannedTrials, ∃ plan ∈ s.plans,
    plan.planId = t.planId ∧ plan.runId = t.runId
  work_trial : ∀ w ∈ s.workItems, ∃ trial ∈ s.plannedTrials,
    trial.trialId = w.trialId ∧ trial.planId = w.planId ∧ trial.runId = w.runId
  trial_once : Table.Keyed WorkItemRecord.trialId s.workItems
  lease_work : ∀ l ∈ s.leases, ∃ w ∈ s.workItems, w.workId = l.workId
  one_active : ∀ l ∈ s.leases, ∀ l' ∈ s.leases, l.state = .active → l'.state = .active →
    l.workId = l'.workId → l.leaseId = l'.leaseId
  attempt_work : ∀ a ∈ s.attempts, ∃ w ∈ s.workItems, w.workId = a.workId
  attempt_lease : ∀ a ∈ s.attempts, ∀ id ∈ a.leaseId, ∃ l ∈ s.leases,
    l.leaseId = id ∧ l.workId = a.workId

namespace WellFormed

variable {s s' : OperationalStore}

lemma empty : WellFormed OperationalStore.empty := by
  constructor <;> simp [OperationalStore.empty, Table.Keyed]

lemma column_eq {ρ β : Type} {g : ρ → ρ} (c : ρ → β) (hc : ∀ r, c (g r) = c r) {a b : ρ}
    (h : g a = g b) : c a = c b := by
  rw [← hc a, ← hc b, h]

lemma updates (hs : s.WellFormed) (h : Updates s s') : s'.WellFormed := by
  have hk {ρ : Type} {g : ρ → ρ} {c : ρ → Uuid} (hc : ∀ r, c (g r) = c r) {rows rows' : List ρ}
      (he : rows'.map g = rows.map g) (hr : Table.Keyed c rows) : Table.Keyed c rows' := by
    unfold Table.Keyed
    rw [Table.map_eq_of_map_eq hc he]
    exact hr
  have hmem {ρ : Type} {g : ρ → ρ} {rows rows' : List ρ} (he : rows'.map g = rows.map g) {r : ρ}
      (hr : r ∈ rows) : ∃ r' ∈ rows', g r' = g r := Table.mem_of_map_eq he.symm hr
  constructor
  · exact hk (fun _ => by rfl) h.runs hs.runs_keyed
  · exact hk (fun _ => by rfl) h.plans hs.plans_keyed
  · exact hk (fun _ => by rfl) h.plannedTrials hs.trials_keyed
  · exact hk (fun _ => by rfl) h.workItems hs.works_keyed
  · exact hk (fun _ => by rfl) h.leases hs.leases_keyed
  · exact hk (fun _ => by rfl) h.attempts hs.attempts_keyed
  · intro p' hp'
    obtain ⟨p, hp, hpf⟩ := Table.mem_of_map_eq h.plans hp'
    obtain ⟨r, hr, hrp⟩ := hs.plan_run p hp
    obtain ⟨r', hr', hrf⟩ := hmem h.runs hr
    exact ⟨r', hr', (column_eq RunRecord.runId (fun _ => by rfl) hrf).trans
      (hrp.trans (column_eq PlanRecord.runId (fun _ => by rfl) hpf))⟩
  · intro t' ht'
    obtain ⟨t, ht, htf⟩ := Table.mem_of_map_eq h.plannedTrials ht'
    obtain ⟨p, hp, hpt, hpr⟩ := hs.trial_plan t ht
    obtain ⟨p', hp', hpf⟩ := hmem h.plans hp
    exact ⟨p', hp', (column_eq PlanRecord.planId (fun _ => by rfl) hpf).trans
        (hpt.trans (column_eq PlannedTrialRecord.planId (fun _ => by rfl) htf)),
      (column_eq PlanRecord.runId (fun _ => by rfl) hpf).trans
        (hpr.trans (column_eq PlannedTrialRecord.runId (fun _ => by rfl) htf))⟩
  · intro w' hw'
    obtain ⟨w, hw, hwf⟩ := Table.mem_of_map_eq h.workItems hw'
    obtain ⟨t, ht, htw, htp, htr⟩ := hs.work_trial w hw
    obtain ⟨t', ht', htf⟩ := hmem h.plannedTrials ht
    exact ⟨t', ht', (column_eq PlannedTrialRecord.trialId (fun _ => by rfl) htf).trans
        (htw.trans (column_eq WorkItemRecord.trialId (fun _ => by rfl) hwf)),
      (column_eq PlannedTrialRecord.planId (fun _ => by rfl) htf).trans
        (htp.trans (column_eq WorkItemRecord.planId (fun _ => by rfl) hwf)),
      (column_eq PlannedTrialRecord.runId (fun _ => by rfl) htf).trans
        (htr.trans (column_eq WorkItemRecord.runId (fun _ => by rfl) hwf))⟩
  · exact hk (fun _ => by rfl) h.workItems hs.trial_once
  · intro l' hl'
    obtain ⟨l, hl, hlf⟩ := Table.mem_of_map_eq h.leases hl'
    obtain ⟨w, hw, hwl⟩ := hs.lease_work l hl
    obtain ⟨w', hw', hwf⟩ := hmem h.workItems hw
    exact ⟨w', hw', (column_eq WorkItemRecord.workId (fun _ => by rfl) hwf).trans
      (hwl.trans (column_eq LeaseRecord.workId (fun _ => by rfl) hlf))⟩
  · intro a' ha' b' hb' hsa hsb heq
    obtain ⟨a, ha, haf, hsa⟩ := h.active a' ha' hsa
    obtain ⟨b, hb, hbf, hsb⟩ := h.active b' hb' hsb
    have hwork : a.workId = b.workId :=
      (column_eq LeaseRecord.workId (fun _ => by rfl) haf).trans
        (heq.trans (column_eq LeaseRecord.workId (fun _ => by rfl) hbf).symm)
    exact (column_eq LeaseRecord.leaseId (fun _ => by rfl) haf).symm.trans
      ((hs.one_active a ha b hb hsa hsb hwork).trans
        (column_eq LeaseRecord.leaseId (fun _ => by rfl) hbf))
  · intro a' ha'
    obtain ⟨a, ha, haf⟩ := Table.mem_of_map_eq h.attempts ha'
    obtain ⟨w, hw, hwa⟩ := hs.attempt_work a ha
    obtain ⟨w', hw', hwf⟩ := hmem h.workItems hw
    exact ⟨w', hw', (column_eq WorkItemRecord.workId (fun _ => by rfl) hwf).trans
      (hwa.trans (column_eq AttemptRecord.workId (fun _ => by rfl) haf))⟩
  · intro a' ha' id hid
    obtain ⟨a, ha, haf⟩ := Table.mem_of_map_eq h.attempts ha'
    rw [← column_eq AttemptRecord.leaseId (fun _ => by rfl) haf] at hid
    obtain ⟨l, hl, hli, hlw⟩ := hs.attempt_lease a ha id hid
    obtain ⟨l', hl', hlf⟩ := hmem h.leases hl
    exact ⟨l', hl', (column_eq LeaseRecord.leaseId (fun _ => by rfl) hlf).trans hli,
      (column_eq LeaseRecord.workId (fun _ => by rfl) hlf).trans
        (hlw.trans (column_eq AttemptRecord.workId (fun _ => by rfl) haf))⟩

lemma inserts (hs : s.WellFormed) (h : Inserts s s') : s'.WellFormed := by
  have hsub {ρ : Type} {rows : List ρ} {a : ρ} {q : ρ → Prop} (h : ∃ r ∈ rows, q r) :
      ∃ r ∈ rows ++ [a], q r := by
    obtain ⟨r, hr, hq⟩ := h
    exact ⟨r, List.mem_append_left _ hr, hq⟩
  cases h with
  | run hnew => exact
    { hs with
      runs_keyed := hs.runs_keyed.append_singleton hnew
      plan_run := fun p hp => hsub (hs.plan_run p hp) }
  | plan hnew hrun =>
    obtain ⟨run, hrun⟩ := Option.isSome_iff_exists.mp hrun
    exact
      { hs with
        plans_keyed := hs.plans_keyed.append_singleton hnew
        plan_run := by
          intro q hq
          rcases List.mem_append.mp hq with hq | hq
          · exact hs.plan_run q hq
          · rw [List.mem_singleton.mp hq]
            exact ⟨run, Table.mem_of_lookup hrun⟩
        trial_plan := fun t ht => hsub (hs.trial_plan t ht) }
  | plannedTrial hnew hplan =>
    obtain ⟨plan, hplan, hpr⟩ := hplan
    exact
      { hs with
        trials_keyed := hs.trials_keyed.append_singleton hnew
        trial_plan := by
          intro u hu
          rcases List.mem_append.mp hu with hu | hu
          · exact hs.trial_plan u hu
          · rw [List.mem_singleton.mp hu]
            exact ⟨plan, (Table.mem_of_lookup hplan).1, (Table.mem_of_lookup hplan).2, hpr⟩
        work_trial := fun w hw => hsub (hs.work_trial w hw) }
  | @workItem w hnew htrial hfree =>
    obtain ⟨trial, htrial, htp, htr⟩ := htrial
    exact
      { hs with
        works_keyed := hs.works_keyed.append_singleton hnew
        work_trial := by
          intro v hv
          rcases List.mem_append.mp hv with hv | hv
          · exact hs.work_trial v hv
          · rw [List.mem_singleton.mp hv]
            exact ⟨trial, (Table.mem_of_lookup htrial).1, (Table.mem_of_lookup htrial).2, htp,
              htr⟩
        trial_once := hs.trial_once.append_singleton (Table.lookup_eq_none_iff.mpr hfree)
        lease_work := fun l hl => hsub (hs.lease_work l hl)
        attempt_work := fun a ha => hsub (hs.attempt_work a ha) }
  | @attempt a hnew hwork hlease =>
    obtain ⟨w, hw⟩ := Option.isSome_iff_exists.mp hwork
    exact
      { hs with
        attempts_keyed := hs.attempts_keyed.append_singleton hnew
        attempt_work := by
          intro b hb
          rcases List.mem_append.mp hb with hb | hb
          · exact hs.attempt_work b hb
          · rw [List.mem_singleton.mp hb]
            exact ⟨w, Table.mem_of_lookup hw⟩
        attempt_lease := by
          intro b hb id hid
          rcases List.mem_append.mp hb with hb | hb
          · exact hs.attempt_lease b hb id hid
          · rw [List.mem_singleton.mp hb] at hid ⊢
            obtain ⟨l, hl, hlw⟩ := hlease id hid
            exact ⟨l, (Table.mem_of_lookup hl).1, (Table.mem_of_lookup hl).2, hlw⟩ }
  | submission => exact { hs with }
  | @lease s₁ lease now hupdates hgrant hwork =>
    have hs₁ := hs.updates hupdates
    have hgranted : ({ s₁ with leases := s₁.leases ++ [lease] } : OperationalStore).WellFormed :=
      { hs₁ with
        leases_keyed := hs₁.leases_keyed.append_singleton hgrant.1
        lease_work := by
          intro l hl
          rcases List.mem_append.mp hl with hl | hl
          · exact hs₁.lease_work l hl
          · rw [List.mem_singleton.mp hl]; exact hwork
        one_active := by
          intro l hl l' hl' hsl hsl' heq
          rcases List.mem_append.mp hl with hl | hl <;> rcases List.mem_append.mp hl' with hl' | hl'
          · exact hs₁.one_active l hl l' hl' hsl hsl' heq
          · rw [List.mem_singleton.mp hl'] at heq
            exact absurd hsl (hgrant.2.2 l hl heq)
          · rw [List.mem_singleton.mp hl] at heq
            exact absurd hsl' (hgrant.2.2 l' hl' heq.symm)
          · rw [List.mem_singleton.mp hl, List.mem_singleton.mp hl']
        attempt_lease := fun a ha id hid => hsub (hs₁.attempt_lease a ha id hid) }
    exact hgranted.updates (.markLeased _ _ _)

lemma rows_of_workItem (hs : s.WellFormed) {w : WorkItemRecord} (hw : s.workItem? id = some w) :
    (∃ trial, s.plannedTrial? w.trialId = some trial ∧ trial.runId = w.runId) ∧
      (∃ plan, s.plan? w.planId = some plan ∧ plan.runId = w.runId) ∧
      ∃ run, s.run? w.runId = some run := by
  obtain ⟨trial, htrial, hid, hplanId, hrun⟩ := hs.work_trial w (Table.mem_of_lookup hw).1
  obtain ⟨plan, hplan, hpid, hprun⟩ := hs.trial_plan trial htrial
  obtain ⟨run, hrunMem, hrid⟩ := hs.plan_run plan hplan
  refine ⟨⟨trial, ?_, hrun⟩, ⟨plan, ?_, hprun.trans hrun⟩, run, ?_⟩
  · rw [← hid]
    exact hs.trials_keyed.lookup_of_mem htrial
  · rw [← hplanId, ← hpid]
    exact hs.plans_keyed.lookup_of_mem hplan
  · rw [← hrun, ← hprun, ← hrid]
    exact hs.runs_keyed.lookup_of_mem hrunMem

end WellFormed

/-! ## What any number of operations does to the tables -/

/-- No row is removed and no fixed column changes. -/
structure Extends (s s' : OperationalStore) : Prop where
  runs : Table.Grows RunRecord.frozen s.runs s'.runs
  plans : Table.Grows PlanRecord.frozen s.plans s'.plans
  plannedTrials : Table.Grows PlannedTrialRecord.frozen s.plannedTrials s'.plannedTrials
  workItems : Table.Grows WorkItemRecord.frozen s.workItems s'.workItems
  leases : Table.Grows LeaseRecord.frozen s.leases s'.leases
  attempts : Table.Grows AttemptRecord.frozen s.attempts s'.attempts

namespace Extends

variable {s s' s'' : OperationalStore}

protected lemma refl (s : OperationalStore) : Extends s s :=
  ⟨.refl _ _, .refl _ _, .refl _ _, .refl _ _, .refl _ _, .refl _ _⟩

protected lemma trans (h : Extends s s') (h' : Extends s' s'') : Extends s s'' :=
  ⟨h.runs.trans h'.runs, h.plans.trans h'.plans, h.plannedTrials.trans h'.plannedTrials,
    h.workItems.trans h'.workItems, h.leases.trans h'.leases, h.attempts.trans h'.attempts⟩

lemma updates (h : Updates s s') : Extends s s' :=
  ⟨.of_map_eq h.runs, .of_map_eq h.plans, .of_map_eq h.plannedTrials, .of_map_eq h.workItems,
    .of_map_eq h.leases, .of_map_eq h.attempts⟩

lemma inserts (h : Inserts s s') : Extends s s' := by
  cases h with
  | run => exact { Extends.refl s with runs := .append _ _ _ }
  | plan => exact { Extends.refl s with plans := .append _ _ _ }
  | plannedTrial => exact { Extends.refl s with plannedTrials := .append _ _ _ }
  | workItem => exact { Extends.refl s with workItems := .append _ _ _ }
  | attempt => exact { Extends.refl s with attempts := .append _ _ _ }
  | submission => exact { Extends.refl s with }
  | @lease s₁ lease now hupdates _ _ =>
    refine (Extends.updates hupdates).trans (.trans ?_ (Extends.updates (.markLeased _ _ now)))
    exact { Extends.refl s₁ with leases := .append _ _ lease }

lemma run? (h : Extends s s') {r : RunRecord} (hr : s.run? id = some r) :
    ∃ r', s'.run? id = some r' ∧ r'.frozen = r.frozen :=
  Table.Grows.lookup (fun _ => by rfl) h.runs hr

lemma plan? (h : Extends s s') {p : PlanRecord} (hp : s.plan? id = some p) :
    ∃ p', s'.plan? id = some p' ∧ p'.frozen = p.frozen :=
  Table.Grows.lookup (fun _ => by rfl) h.plans hp

lemma workItem? (h : Extends s s') {w : WorkItemRecord} (hw : s.workItem? id = some w) :
    ∃ w', s'.workItem? id = some w' ∧ w'.frozen = w.frozen :=
  Table.Grows.lookup (fun _ => by rfl) h.workItems hw

lemma lease? (h : Extends s s') {l : LeaseRecord} (hl : s.lease? id = some l) :
    ∃ l', s'.lease? id = some l' ∧ l'.frozen = l.frozen :=
  Table.Grows.lookup (fun _ => by rfl) h.leases hl

lemma attempt? (h : Extends s s') {a : AttemptRecord} (ha : s.attempt? id = some a) :
    ∃ a', s'.attempt? id = some a' ∧ a'.frozen = a.frozen :=
  Table.Grows.lookup (fun _ => by rfl) h.attempts ha

end Extends

end OperationalStore

/-! ## Operations -/

namespace StoreOp

open OperationalStore

variable {β : Type} {op : StoreOp β} {s s' : OperationalStore}

/-- An operation updates rows or inserts one. -/
theorem Effect.updates_or_inserts (h : Effect s op s') : Updates s s' ∨ Inserts s s' := by
  have hwork {t : OperationalStore} {w : WorkItemRecord} {id : Uuid}
      (hw : t.workItem? id = some w) : ∃ w ∈ t.workItems, w.workId = id :=
    ⟨w, Table.mem_of_lookup hw⟩
  cases h with
  | unchanged => exact .inl (.refl s)
  | createRun hnew hid => exact .inr (.run (hid ▸ hnew))
  | updateRun t => exact .inl (.setRuns s _ fun _ => by rfl)
  | requestCancellation hrun hopen hcancelled =>
    exact .inl ((Updates.applyCancellation hcancelled).trans (.closeAfterCancellation _ _ _))
  | putPlan hnew hrun hid hp => exact .inr (.plan (hid ▸ hnew) (hp ▸ hrun))
  | updatePlan t => exact .inl (.setPlans s _ fun _ => by rfl)
  | putPlannedTrial hnew hplan hid htp htr =>
    exact .inr (.plannedTrial (hid ▸ hnew) (by rw [htp, htr]; exact hplan))
  | updatePlannedTrial t => exact .inl (.setPlannedTrials s _ fun _ => by rfl)
  | completePlanIfTerminal => exact .inl (.closePlan _ _ _ _ _)
  | createWorkItem hnew htrial _ hfree hw =>
    subst hw
    exact .inr (.workItem hnew htrial hfree)
  | updateWorkItem t => exact .inl (.setWorkItems s _ fun _ => by rfl)
  | scheduleRetry => exact .inl (.requeue _ _ _ _ _)
  | createAttempt hitem hlease ha hnew _ =>
    subst ha
    refine .inr (.attempt hnew (Option.isSome_iff_exists.mpr ⟨_, hitem⟩) fun id hid => ?_)
    obtain ⟨l, hl, hlw, -⟩ := hlease id hid
    exact ⟨l, hl, hlw⟩
  | @createAttemptForLease _ _ _ _ _ _ item lease _ _ hitem hlease hlw _ ha hnew _ =>
    subst ha
    refine .inr (.attempt hnew (Option.isSome_iff_exists.mpr ⟨_, hitem⟩) fun id hid => ?_)
    obtain rfl := Option.some.inj hid
    exact ⟨lease, hlease, hlw⟩
  | transitionAttempt t => exact .inl (.setAttempts s _ fun _ => by rfl)
  | recordBackendSubmission => exact .inr .submission
  | transitionBackendSubmission t | bindBackendSubmissionExternalIds t =>
    exact .inl (.setSubmissions s _ fun _ => by rfl)
  | sweepOnly => exact .inl (.sweep s _ _)
  | leaseNextWorkItem hselect hgrant =>
    exact .inr (.lease (.sweep s _ _) hgrant ⟨_, (selectCandidate_eq_some hselect).1, rfl⟩)
  | acquireSweep => exact .inl (.sweep s _ _)
  | acquireQueued hitem _ hgrant => exact .inr (.lease (.sweep s _ _) hgrant (hwork hitem))
  | acquireEnded hitem _ _ _ hgrant =>
    exact .inr (.lease (.trans (.sweep s _ _) (.endLease _ _)) hgrant (hwork hitem))
  | renewLease => exact .inl (.setLeases s _ (fun _ => by rfl) fun _ _ h => h)
  | releaseLease t => exact .inl (.release s _ _ t)
  | expireLeases => exact .inl (.sweep s _ _)

/-- Operations keep the database well formed. -/
theorem exec_wellFormed (clock : Time) (op : StoreOp β) (hs : s.WellFormed) :
    (op.exec clock s).2.WellFormed := by
  rcases (exec_effect clock op s).updates_or_inserts with h | h
  · exact hs.updates h
  · exact hs.inserts h

/-- Operations only extend the tables. -/
theorem exec_extends (clock : Time) (op : StoreOp β) (s : OperationalStore) :
    Extends s (op.exec clock s).2 := by
  rcases (exec_effect clock op s).updates_or_inserts with h | h
  · exact .updates h
  · exact .inserts h

/-- The operation can grant a lease. -/
def grants : ∀ {β : Type}, StoreOp β → Bool
  | _, .leaseNextWorkItem _ => true
  | _, .acquireLease _ _ _ _ _ => true
  | _, _ => false

lemma Effect.active_of_not_grants (h : Effect s op s') (hop : op.grants = false) :
    ∀ l' ∈ s'.leases, l'.state = .active →
      ∃ l ∈ s.leases, l.frozen = l'.frozen ∧ l.state = .active := by
  have hupd : Updates s s' → ∀ l' ∈ s'.leases, l'.state = .active →
      ∃ l ∈ s.leases, l.frozen = l'.frozen ∧ l.state = .active := fun hu => hu.active
  cases h with
  | requestCancellation _ _ hcancelled =>
    exact hupd ((Updates.applyCancellation hcancelled).trans (.closeAfterCancellation _ _ _))
  | completePlanIfTerminal => exact hupd (.closePlan _ _ _ _ _)
  | sweepOnly | leaseNextWorkItem | acquireSweep | acquireQueued | acquireEnded => cases hop
  | renewLease => exact hupd (.setLeases s _ (fun _ => by rfl) fun _ _ h => h)
  | releaseLease t => exact hupd (.release s _ _ t)
  | expireLeases => exact hupd (.sweep s _ _)
  | _ => exact fun l hl ha => ⟨l, hl, rfl, ha⟩

/-- An active lease after an operation was active before it, or is new. -/
theorem exec_active (clock : Time) (op : StoreOp β) (s : OperationalStore) {l' : LeaseRecord}
    (hl' : l' ∈ (op.exec clock s).2.leases) (hactive : l'.state = .active) :
    (∃ l ∈ s.leases, l.frozen = l'.frozen ∧ l.state = .active) ∨
      s.lease? l'.leaseId = none := by
  rcases (exec_effect clock op s).updates_or_inserts with h | h
  · exact .inl (h.active l' hl' hactive)
  · generalize (op.exec clock s).2 = s' at h hl'
    cases h with
    | run | plan | plannedTrial | workItem | attempt | submission =>
      exact .inl ⟨l', hl', rfl, hactive⟩
    | @lease s₁ lease now hupdates hgrant _ =>
      rcases List.mem_append.mp hl' with hl' | hl'
      · exact .inl (hupdates.active l' hl' hactive)
      · rw [List.mem_singleton.mp hl']
        exact .inr (hupdates.lease?_eq_none hgrant.1)

/-- A lease that is not active never becomes active again. -/
theorem exec_lease_inactive (clock : Time) (op : StoreOp β) (hs : s.WellFormed) {id : Uuid}
    {l : LeaseRecord} (hl : s.lease? id = some l) (hinactive : l.state ≠ .active) :
    ∃ l', (op.exec clock s).2.lease? id = some l' ∧ l'.state ≠ .active := by
  obtain ⟨l', hl', hf⟩ := (exec_extends clock op s).lease? hl
  refine ⟨l', hl', fun hactive => ?_⟩
  have hid' : l'.leaseId = id := (Table.mem_of_lookup hl').2
  rcases exec_active clock op s (Table.mem_of_lookup hl').1 hactive with
    ⟨l₀, hl₀, hf₀, hactive₀⟩ | hnone
  · have hid : l₀.leaseId = l.leaseId :=
      WellFormed.column_eq LeaseRecord.leaseId (fun _ => by rfl) (hf₀.trans hf)
    rw [hs.leases_keyed.eq_of_key_eq hl₀ (Table.mem_of_lookup hl).1 hid] at hactive₀
    exact hinactive hactive₀
  · rw [hid'] at hnone
    exact nomatch hnone.symm.trans hl

end StoreOp

end AecBench.Execution
