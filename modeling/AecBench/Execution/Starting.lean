import Mathlib.Data.List.Dedup
import AecBench.Execution.Completion

/-!
# Leasing and starting a batch

The first part of a dispatch pass, among cancellation requests and workers. The pass leases its
work items one at a time, and starts the batch when it has them all. No call of the start is
refused: the leases have not expired at the time of the pass, and the retry number of the new
attempt is above those the pass has read.

## Main definitions

* `Held` — the work items leased so far and their leases, which are different.
* `Started` — what a started work item has to do with the one that was leased.

## Main results

* `leaseBatch_holds` — the leases of a batch are held by the owner of the pass.
* `startBatch_starts` — a batch that is held is started.
-/

namespace AecBench.Execution

open OperationalStore Program LocalScheduler

/-- The rows of a work item and of a lease on it, which the owner of a pass has at `now`. -/
structure HeldItem (owner : String) (now : Time) (selected : WorkItemRecord × LeaseRecord)
    (s : OperationalStore) : Prop where
  work : ∃ w ∈ s.workItem? selected.1.workId, w.frozen = selected.1.frozen
  lease : ∃ l ∈ s.lease? selected.2.leaseId,
    l.workId = selected.1.workId ∧ l.owner = owner ∧ l.state = .active ∧ now < l.expiresAt

/-- The work items that a pass has leased so far. -/
structure Held (owner : String) (now : Time) (leased : List (WorkItemRecord × LeaseRecord))
    (s : OperationalStore) : Prop where
  wellFormed : s.WellFormed
  nonblank : leased ≠ [] → isBlank owner = false
  items : ∀ selected ∈ leased, HeldItem owner now selected s
  works : (leased.map fun selected => selected.1.workId).Nodup
  leases : (leased.map fun selected => selected.2.leaseId).Nodup

/-- A started work item is the one that was leased, under the same lease, with an attempt. -/
structure Started (selected : WorkItemRecord × LeaseRecord) (running : RunningItem)
    (s : OperationalStore) : Prop where
  work : running.workItem.frozen = selected.1.frozen
  lease : running.lease = selected.2
  attempt : ∃ a ∈ s.attempt? running.attempt.attemptId, a.workId = selected.1.workId

variable {owner : String} {now : Time} {selected : WorkItemRecord × LeaseRecord}
  {leased : List (WorkItemRecord × LeaseRecord)} {s s' s₀ : OperationalStore}

lemma HeldItem.keeps (hk : Keeps s s') (h : HeldItem owner now selected s) :
    HeldItem owner now selected s' := by
  obtain ⟨⟨w, hw, hf⟩, hlease⟩ := h
  obtain ⟨w', hw', hf'⟩ := hk.extends_.workItem? hw
  refine ⟨⟨w', hw', hf'.trans hf⟩, ?_⟩
  rw [lease?, hk.leases]
  exact hlease

lemma Held.keeps (hk : Keeps s s') (h : Held owner now leased s) : Held owner now leased s' :=
  { h with
    wellFormed := hk.wellFormed h.wellFormed
    items := fun selected hs => (h.items selected hs).keeps hk }

lemma Started.keeps {running : RunningItem} (hk : Keeps s s')
    (h : Started selected running s) : Started selected running s' := by
  obtain ⟨a, ha, hwork⟩ := h.attempt
  obtain ⟨a', ha', hf⟩ := hk.extends_.attempt? ha
  exact { h with attempt := ⟨a', ha',
    (WellFormed.column_eq AttemptRecord.workId (fun _ => by rfl) hf).trans hwork⟩ }

lemma Started.known {running : RunningItem} (hheld : HeldItem owner now selected s)
    (h : Started selected running s) :
    Known owner running s ∧ Active running.lease.leaseId s := by
  obtain ⟨⟨w, hw, hf⟩, l, hl, hwork, howner, hactive, -⟩ := hheld
  have hid : running.workItem.workId = selected.1.workId :=
    WellFormed.column_eq WorkItemRecord.workId (fun _ => by rfl) h.work
  refine ⟨⟨?_, ?_, ?_⟩, ?_⟩
  · rw [hid, h.work]
    exact ⟨w, hw, hf⟩
  · rw [hid]
    exact h.attempt
  · rw [hid, h.lease]
    exact ⟨l, hl, hwork, howner⟩
  · rw [h.lease]
    exact ⟨l, hl, hactive⟩

/-! ## Starting -/

section Starting

lemma updateRun_succeeds (clock : Time) {runId : Uuid} (h : ∃ run, s.run? runId = some run)
    (status : RunStatus) (now : Option Time) :
    ∃ b, (StoreOp.exec clock (.updateRun runId status now) s).1 = .ok b := by
  obtain ⟨run, hrun⟩ := h
  refine commit_succeeds ?_
  rw [updateRun, requireRun, hrun]
  rfl

lemma updatePlan_succeeds (clock : Time) {planId : Uuid} (h : ∃ plan, s.plan? planId = some plan)
    (state : PlanState) (now : Option Time) :
    ∃ b, (StoreOp.exec clock (.updatePlan planId state now) s).1 = .ok b := by
  obtain ⟨plan, hplan⟩ := h
  refine commit_succeeds ?_
  rw [updatePlan, requirePlan, hplan]
  rfl

lemma HeldItem.rows (hs : s.WellFormed) (h : HeldItem owner now selected s) :
    (∃ trial, s.plannedTrial? selected.1.trialId = some trial ∧
      trial.runId = selected.1.runId) ∧
    (∃ plan, s.plan? selected.1.planId = some plan) ∧
    ∃ run, s.run? selected.1.runId = some run := by
  obtain ⟨w, hw, hf⟩ := h.work
  have htrialId := WellFormed.column_eq WorkItemRecord.trialId (fun _ => by rfl) hf
  have hplanId := WellFormed.column_eq WorkItemRecord.planId (fun _ => by rfl) hf
  have hrunId := WellFormed.column_eq WorkItemRecord.runId (fun _ => by rfl) hf
  obtain ⟨htrial, ⟨plan, hplan, -⟩, hrun⟩ := hs.rows_of_workItem hw
  rw [htrialId, hrunId] at htrial
  rw [hplanId] at hplan
  rw [hrunId] at hrun
  exact ⟨htrial, ⟨plan, hplan⟩, hrun⟩

lemma createAttemptForLease_succeeds (clock : Time) (hs : s.WellFormed)
    (h : HeldItem owner now selected s) {retryNumber : ℕ}
    (hfree : ∀ a ∈ s.attempts, a.workId = selected.1.workId → a.candidateIndex = 1 →
      a.retryNumber ≠ retryNumber) :
    ∃ a s', StoreOp.exec clock (.createAttemptForLease selected.1.workId selected.1.trialId
        selected.2.leaseId 1 retryNumber (some now)) s = (.ok a, s') ∧
      s'.attempt? a.attemptId = some a ∧ a.workId = selected.1.workId := by
  obtain ⟨⟨trial, htrial, htrialRun⟩, -, -⟩ := h.rows hs
  obtain ⟨⟨w, hw, hf⟩, l, hl, hwork, -, hactive, hexpires⟩ := h
  have hw' : s.workItem? selected.1.workId = some w := hw
  have hl' : s.lease? selected.2.leaseId = some l := hl
  have htrialId := WellFormed.column_eq WorkItemRecord.trialId (fun _ => by rfl) hf
  have hrunId := WellFormed.column_eq WorkItemRecord.runId (fun _ => by rfl) hf
  generalize hrow : newAttempt (freshId (s.attempts.map AttemptRecord.attemptId))
    selected.1.workId w.runId selected.1.trialId (s.nextAttemptNumber selected.1.workId) 1
    retryNumber (some selected.2.leaseId) .created now = row
  have hnone : s.attempt? row.attemptId = none := by
    refine Table.lookup_eq_none_iff.mpr fun a ha heq => ?_
    refine freshId_not_mem (s.attempts.map AttemptRecord.attemptId) (List.mem_map.mpr ⟨a, ha, ?_⟩)
    rw [heq, ← hrow]
    rfl
  have hnumber (a : AttemptRecord) (ha : a ∈ s.attempts)
      (haw : a.workId = row.workId ∧ a.attemptNumber = row.attemptNumber) : False := by
    have hle : a.attemptNumber ≤ ((s.attempts.filter fun a => a.workId = selected.1.workId).map
        AttemptRecord.attemptNumber).foldr max 0 := by
      refine le_foldr_max (List.mem_map_of_mem (List.mem_filter.mpr ⟨ha, ?_⟩))
      rw [haw.1, ← hrow]
      exact decide_eq_true rfl
    rw [haw.2, ← hrow] at hle
    exact absurd hle (Nat.not_succ_le_self _)
  have hinsert : s.insertAttempt row = .ok { s with attempts := s.attempts ++ [row] } := by
    rw [insertAttempt, if_neg (by rw [hnone]; exact Bool.false_ne_true), if_neg, if_neg]
    · simp only [List.any_eq_true, decide_eq_true_eq, not_exists, not_and]
      intro a ha haw hac har
      rw [← hrow] at haw hac har
      exact hfree a ha haw hac har
    · simp only [List.any_eq_true, decide_eq_true_eq, not_exists, not_and]
      exact fun a ha haw hnum => hnumber a ha ⟨haw, hnum⟩
  have hok : s.createAttemptForLease selected.1.workId selected.1.trialId selected.2.leaseId 1
      retryNumber now = .ok (row, { s with attempts := s.attempts ++ [row] }) := by
    simp only [createAttemptForLease, checkAttemptTrial, requireWorkItem, requirePlannedTrial,
      requireLease, if_neg Nat.one_ne_zero, bind_eq_ok, requireRow_eq_ok]
    refine ⟨w, ⟨w, hw', trial, htrial, ?_⟩, l, hl', ?_⟩
    · rw [if_neg (by rw [htrialId, hrunId, htrialRun]; simp)]
      rfl
    · rw [if_neg (not_not.mpr hwork), if_neg (by rw [hactive]; simpa using hexpires), hrow]
      simp only [bind_eq_ok, pure_eq_ok]
      exact ⟨_, hinsert, rfl⟩
  refine ⟨row, _, commit_ok hok, ?_, by rw [← hrow]; rfl⟩
  have hlook : Table.lookup AttemptRecord.attemptId row.attemptId (s.attempts ++ [row]) = _ :=
    Table.lookup_append_singleton row.attemptId s.attempts row
  rw [show Table.lookup AttemptRecord.attemptId row.attemptId s.attempts = none from hnone,
    if_pos rfl] at hlook
  exact hlook

lemma transitionAttempt_answers (clock now : Time) {attemptId : Uuid}
    (h : ∃ a, s.attempt? attemptId = some a) (state : AttemptState) :
    ∃ a s', StoreOp.exec clock (.transitionAttempt attemptId state none none none (some now)) s =
      (.ok a, s') ∧ a.attemptId = attemptId := by
  obtain ⟨a, ha⟩ := h
  have hok : s.transitionAttempt attemptId state none none none now =
      .ok (AttemptRecord.withState state none none none now a,
        s.setAttempts (fun a => a.attemptId = attemptId)
          (AttemptRecord.withState state none none none now)) := by
    rw [transitionAttempt, requireAttempt, ha]
    rfl
  exact ⟨_, _, commit_ok hok, (Table.mem_of_lookup ha).2⟩

lemma updateWorkItem_keeps (clock : Time) (h : HeldItem owner now selected s)
    (state : WorkItemState) (now : Option Time) :
    ∃ w s', StoreOp.exec clock (.updateWorkItem selected.1.workId state none now) s =
      (.ok w, s') ∧ w.frozen = selected.1.frozen ∧ Keeps s s' := by
  obtain ⟨w, hw, hf⟩ := h.work
  have hok : s.updateWorkItem selected.1.workId state none (now.getD clock) =
      .ok (WorkItemRecord.withState state none (now.getD clock) w,
        s.setWorkItems (fun w => w.workId = selected.1.workId)
          (WorkItemRecord.withState state none (now.getD clock))) := by
    simp only [updateWorkItem, requireWorkItem, bind_eq_ok, requireRow_eq_ok]
    exact ⟨w, hw, by simp [pure, Except.pure]⟩
  have hupdates := Updates.setWorkItems s (fun w => w.workId = selected.1.workId)
    (f := WorkItemRecord.withState state none (now.getD clock)) fun _ => by rfl
  exact ⟨_, _, commit_ok hok, hf, fun hs => hs.updates hupdates, .updates hupdates, rfl⟩

lemma lt_nextRetryNumber {attempts : List AttemptRecord} {a : AttemptRecord}
    (ha : a ∈ attempts) : a.retryNumber < nextRetryNumber attempts :=
  Nat.lt_of_succ_le (le_foldr_max (List.mem_map_of_mem ha))

lemma stable_of_keeps {P : OperationalStore → Prop} (hP : ∀ s s', Keeps s s' → P s → P s') :
    Stable Concurrently P :=
  stable_of_disturbs fun s s' hd => hP s s' hd.toKeeps

lemma startItem_starts (hs₀ : s₀.WellFormed) (hheld : HeldItem owner now selected s₀) :
    PassTriple (Keeps s₀) (startItem now selected.1 selected.2)
      fun running s => Started selected running s ∧ Keeps s₀ s := by
  have hkeeps {s s' : OperationalStore} (hk : Keeps s s') (h : Keeps s₀ s) : Keeps s₀ s' :=
    h.trans hk
  -- the attempts of the first candidate stay below the next retry number
  refine .bind (Q := fun prior s => Keeps s₀ s ∧ ∀ a ∈ s.attempts,
    a.workId = selected.1.workId → a.candidateIndex = 1 →
      a.retryNumber < nextRetryNumber prior) ?_ fun prior => ?_
  · refine Triple.perform_ok (stable_of_keeps fun _ _ => hkeeps) fun s clock hs _ =>
      ⟨_, s, rfl, hs, fun a ha hwork _ => lt_nextRetryNumber ?_⟩
    rw [listAttemptsForWork, Table.mem_orderBy, List.mem_filter]
    exact ⟨ha, decide_eq_true hwork⟩
  refine .bind (Q := fun attempt s => (∃ a ∈ s.attempt? attempt.attemptId,
    a.workId = selected.1.workId) ∧ Keeps s₀ s) ?_ fun attempt => ?_
  · refine Triple.perform_ok (fun s s' hc hs => ?_) fun s clock hs _ => ?_
    · refine ⟨hkeeps hc.disturbs.toKeeps hs.1, fun a' ha' hwork hfirst => ?_⟩
      obtain ⟨a, ha, hf⟩ := hc.attempts ha' hfirst
      rw [← WellFormed.column_eq AttemptRecord.retryNumber (fun _ => by rfl) hf]
      refine hs.2 a ha ?_ ?_
      · exact (WellFormed.column_eq AttemptRecord.workId (fun _ => by rfl) hf).trans hwork
      · exact (WellFormed.column_eq AttemptRecord.candidateIndex (fun _ => by rfl) hf).trans hfirst
    · obtain ⟨a, s', hexec, ha, hwork⟩ := createAttemptForLease_succeeds clock
        (hs.1.wellFormed hs₀) (hheld.keeps hs.1)
        fun a ha hwork hfirst => (hs.2 a ha hwork hfirst).ne
      have hquiet := exec_disturbs (.createAttemptForLease selected.1.workId selected.1.trialId
        selected.2.leaseId 1 (nextRetryNumber prior) (some now)) trivial clock s
      rw [hexec] at hquiet
      exact ⟨a, s', hexec, ⟨a, ha, hwork⟩, hkeeps hquiet.toKeeps hs.1⟩
  have hattempt {s s' : OperationalStore} (hk : Keeps s s')
      (h : (∃ a ∈ s.attempt? attempt.attemptId, a.workId = selected.1.workId) ∧ Keeps s₀ s) :
      (∃ a ∈ s'.attempt? attempt.attemptId, a.workId = selected.1.workId) ∧ Keeps s₀ s' := by
    obtain ⟨⟨a, ha, hwork⟩, hs⟩ := h
    obtain ⟨a', ha', hf⟩ := hk.extends_.attempt? ha
    exact ⟨⟨a', ha', (WellFormed.column_eq AttemptRecord.workId (fun _ => by rfl) hf).trans hwork⟩,
      hkeeps hk hs⟩
  refine .bind (Q := fun workItem s => workItem.frozen = selected.1.frozen ∧
    (∃ a ∈ s.attempt? attempt.attemptId, a.workId = selected.1.workId) ∧ Keeps s₀ s) ?_
    fun workItem => Triple.of_pure fun hwork => ?_
  · refine Triple.perform_ok (stable_of_keeps fun _ _ => hattempt) fun s clock hs _ => ?_
    obtain ⟨w, s', hexec, hf, hk⟩ := updateWorkItem_keeps clock (hheld.keeps hs.2) .running (some now)
    exact ⟨w, s', hexec, hf, hattempt hk hs⟩
  refine .bind (quiet_succeeds (fun _ _ hd => hattempt hd.toKeeps) trivial
    fun s clock hs => ?_) fun _ => ?_
  · obtain ⟨⟨trial, htrial, -⟩, -⟩ := (hheld.keeps hs.2).rows (hs.2.wellFormed hs₀)
    refine commit_succeeds ?_
    rw [WellFormed.column_eq WorkItemRecord.trialId (fun _ => by rfl) hwork, updatePlannedTrial,
      requirePlannedTrial, htrial]
    rfl
  refine .bind (Q := fun attempt' s => attempt'.attemptId = attempt.attemptId ∧
    (∃ a ∈ s.attempt? attempt.attemptId, a.workId = selected.1.workId) ∧ Keeps s₀ s) ?_
    fun attempt' => Triple.of_pure fun hid => .done fun s hs => ⟨⟨hwork, rfl, ?_⟩, hs.2⟩
  · refine Triple.perform_ok (stable_of_keeps fun _ _ => hattempt) fun s clock hs _ => ?_
    obtain ⟨a, ha, -⟩ := hs.1
    obtain ⟨b, s', hexec, hid⟩ := transitionAttempt_answers clock now ⟨a, ha⟩ .running
    have hquiet := exec_disturbs (.transitionAttempt attempt.attemptId .running none none none
      (some now)) trivial clock s
    rw [hexec] at hquiet
    exact ⟨b, s', hexec, hid, hattempt hquiet.toKeeps hs⟩
  · show ∃ a ∈ s.attempt? attempt'.attemptId, a.workId = selected.1.workId
    rw [hid]
    exact hs.1

lemma startItems_starts (hs₀ : s₀.WellFormed)
    (hheld : ∀ selected ∈ leased, HeldItem owner now selected s₀) :
    PassTriple (Keeps s₀) (startItems now leased) fun items s =>
      List.Forall₂ (fun selected running => Started selected running s) leased items ∧
        Keeps s₀ s := by
  induction leased generalizing s₀ with
  | nil => exact .done fun s hs => ⟨.nil, hs⟩
  | cons selected leased ih =>
    refine .bind (startItem_starts hs₀ (hheld _ List.mem_cons_self)) fun running s₁ hs₁ => ?_
    have hrest := ih (hs₁.2.wellFormed hs₀) fun selected h =>
      (hheld selected (List.mem_cons_of_mem _ h)).keeps hs₁.2
    refine Triple.bind hrest (fun rest => .done fun s hs => ?_) s₁ (.refl s₁)
    exact ⟨.cons (hs₁.1.keeps hs.2) hs.1, hs₁.2.trans hs.2⟩

lemma updateRuns_keeps {runIds : List Uuid} (hruns : ∀ id ∈ runIds, ∃ run, s₀.run? id = some run) :
    PassTriple (Keeps s₀) (updateRuns now runIds) fun _ => Keeps s₀ := by
  induction runIds with
  | nil => exact .done fun _ h => h
  | cons runId runIds ih =>
    refine .bind (quiet_succeeds (fun _ _ hd h => h.trans hd.toKeeps) trivial
      fun s clock hs => ?_) fun _ => ih fun id hid => hruns id (List.mem_cons_of_mem _ hid)
    obtain ⟨run, hrun⟩ := hruns runId List.mem_cons_self
    obtain ⟨run', hrun', -⟩ := hs.extends_.run? hrun
    exact updateRun_succeeds clock ⟨run', hrun'⟩ _ _

lemma updatePlans_keeps {planIds : List Uuid}
    (hplans : ∀ id ∈ planIds, ∃ plan, s₀.plan? id = some plan) :
    PassTriple (Keeps s₀) (updatePlans now planIds) fun _ => Keeps s₀ := by
  induction planIds with
  | nil => exact .done fun _ h => h
  | cons planId planIds ih =>
    refine .bind (quiet_succeeds (fun _ _ hd h => h.trans hd.toKeeps) trivial
      fun s clock hs => ?_) fun _ => ih fun id hid => hplans id (List.mem_cons_of_mem _ hid)
    obtain ⟨plan, hplan⟩ := hplans planId List.mem_cons_self
    obtain ⟨plan', hplan', -⟩ := hs.extends_.plan? hplan
    exact updatePlan_succeeds clock ⟨plan', hplan'⟩ _ _

/-- A batch that is held is started. -/
theorem startBatch_starts (hs₀ : s₀.WellFormed)
    (hheld : ∀ selected ∈ leased, HeldItem owner now selected s₀) :
    PassTriple (Keeps s₀) (startBatch now leased) fun items s =>
      List.Forall₂ (fun selected running => Started selected running s) leased items ∧
        Keeps s₀ s := by
  refine .bind (updateRuns_keeps fun id hid => ?_) fun _ =>
    .bind (updatePlans_keeps fun id hid => ?_) fun _ => startItems_starts hs₀ hheld
  · obtain ⟨selected, hselected, rfl⟩ := List.mem_map.mp (List.dedup_subset _ hid)
    exact ((hheld selected hselected).rows hs₀).2.2
  · obtain ⟨selected, hselected, rfl⟩ := List.mem_map.mp (List.dedup_subset _ hid)
    exact ((hheld selected hselected).rows hs₀).2.1

end Starting

/-! ## Leasing -/

section Leasing

lemma lease?_sweep (hs : s.WellFormed) {id : Uuid} {l : LeaseRecord} (hl : s.lease? id = some l)
    (hexpires : now < l.expiresAt) : (s.sweep now none).lease? id = some l := by
  obtain ⟨hmem, hid⟩ := Table.mem_of_lookup hl
  have hmem' : l ∈ (s.sweep now none).leases := by
    rw [OperationalStore.sweep, foldl_expireLease_leases, List.mem_map]
    refine ⟨l, hmem, if_neg ?_⟩
    simp only [List.any_eq_true, decide_eq_true_eq, not_exists, not_and]
    intro x hx hxl
    obtain ⟨hxmem, hxprop⟩ := List.mem_filter.mp hx
    obtain rfl := hs.leases_keyed.eq_of_key_eq hxmem hmem hxl
    exact absurd (of_decide_eq_true hxprop).2.1 (not_le.mpr hexpires)
  rw [← hid]
  exact (hs.updates (.sweep s now none)).leases_keyed.lookup_of_mem hmem'

lemma Held.sweep (h : Held owner now leased s) : Held owner now leased (s.sweep now none) where
  wellFormed := h.wellFormed.updates (.sweep s now none)
  nonblank := h.nonblank
  items selected hselected := by
    obtain ⟨⟨w, hw, hf⟩, l, hl, hwork, howner, hactive, hexpires⟩ := h.items selected hselected
    obtain ⟨w', hw', hf'⟩ := (Extends.updates (.sweep s now none)).workItem? hw
    exact ⟨⟨w', hw', hf'.trans hf⟩, l, lease?_sweep h.wellFormed hl hexpires, hwork, howner,
      hactive, hexpires⟩
  works := h.works
  leases := h.leases

lemma Held.grant (h : Held owner now leased s) {lease l : LeaseRecord} {w : WorkItemRecord}
    (hgrant : s.Grantable lease) (hwork : ∃ w ∈ s.workItems, w.workId = lease.workId)
    (howner : lease.owner = owner) (hnonblank : isBlank owner = false)
    (hexpires : now < lease.expiresAt)
    (hw : (s.grant lease now).workItem? lease.workId = some w)
    (hl : (s.grant lease now).lease? lease.leaseId = some l) :
    Held owner now (leased ++ [(w, l)]) (s.grant lease now) := by
  have hinserts : Inserts s (s.grant lease now) := .lease (.refl s) hgrant hwork
  have hlook (id : Uuid) : (s.grant lease now).lease? id =
      (s.lease? id).or (if lease.leaseId = id then some lease else none) :=
    Table.lookup_append_singleton id s.leases lease
  obtain rfl : l = lease := by
    rw [hlook, hgrant.1, if_pos rfl] at hl
    exact (Option.some.inj hl).symm
  have hid : w.workId = l.workId := (Table.mem_of_lookup hw).2
  refine ⟨h.wellFormed.inserts hinserts, fun _ => hnonblank, fun selected hselected => ?_, ?_, ?_⟩
  · rcases List.mem_append.mp hselected with hselected | hselected
    · obtain ⟨⟨v, hv, hf⟩, l', hl', hrest⟩ := h.items selected hselected
      obtain ⟨v', hv', hf'⟩ := (Extends.inserts hinserts).workItem? hv
      refine ⟨⟨v', hv', hf'.trans hf⟩, l', ?_, hrest⟩
      rw [hlook, show s.lease? selected.2.leaseId = some l' from hl', Option.some_or]
      rfl
    · obtain rfl := List.mem_singleton.mp hselected
      exact ⟨⟨w, by rw [hid]; exact hw, rfl⟩, l, hl, hid.symm, howner, hgrant.2.1, hexpires⟩
  · rw [List.map_append]
    refine h.works.append (List.nodup_singleton _) ?_
    simp only [List.map_cons, List.map_nil, List.disjoint_singleton, List.mem_map, not_exists,
      not_and]
    intro selected hselected heq
    obtain ⟨-, l', hl', hwork', -, hactive, -⟩ := h.items selected hselected
    exact hgrant.2.2 l' (Table.mem_of_lookup hl').1 (hwork'.trans (heq.trans hid)) hactive
  · rw [List.map_append]
    refine h.leases.append (List.nodup_singleton _) ?_
    simp only [List.map_cons, List.map_nil, List.disjoint_singleton, List.mem_map, not_exists,
      not_and]
    intro selected hselected heq
    obtain ⟨-, l', hl', -⟩ := h.items selected hselected
    rw [heq, hgrant.1] at hl'
    cases hl'

lemma leaseNextWorkItem_nonblank {request : LeaseRequest}
    {a : Option (WorkItemRecord × LeaseRecord)}
    (h : s.leaseNextWorkItem request = .ok (a, s')) : isBlank request.owner = false := by
  simp only [leaseNextWorkItem, bind_eq_ok, LeaseRequest.check, requiredText,
    ite_error_eq_ok, Bool.not_eq_true] at h
  obtain ⟨_, ⟨_, hblank, -⟩, -⟩ := h
  exact hblank.1

/-- The leases of a batch are held by the owner of the pass. -/
theorem leaseBatch_holds {policy : ExecutionPolicy} {n : ℕ} :
    Triple semantics Concurrently RetriesOpen (Held owner now leased)
      (leaseBatch policy owner now n) (fun rest => Held owner now (leased ++ rest))
      fun _ _ => True := by
  induction n generalizing leased with
  | zero => exact .done fun s hs => by rwa [List.append_nil]
  | succ n ih =>
    refine .bind (Q := fun a => Held owner now (leased ++ a.toList)) ?_ fun a => ?_
    · refine Triple.perform (stable_of_keeps fun _ _ => Held.keeps) fun s clock hs _ => ?_
      cases hlease : s.leaseNextWorkItem (policy.leaseRequest owner now) with
      | error e => simp only [semantics_act, StoreOp.exec, hlease, StoreOp.commit]
      | ok r =>
        obtain ⟨a, s'⟩ := r
        simp only [semantics_act, StoreOp.exec, hlease, StoreOp.commit]
        obtain ⟨httl, ⟨rfl, rfl⟩ | ⟨candidate, lease, hselect, rfl, hgrant, rfl, w, l, rfl, hw,
          hl⟩⟩ := leaseNextWorkItem_ok hlease
        · rw [Option.toList_none, List.append_nil]
          exact hs.sweep
        · refine hs.sweep.grant hgrant ⟨_, (selectCandidate_eq_some hselect).1, rfl⟩ rfl
            (leaseNextWorkItem_nonblank hlease) ?_ hw hl
          exact Int.lt_add_of_pos_right _ (Int.natCast_pos.mpr httl)
    · cases a with
      | none => exact .done fun s hs => hs
      | some selected =>
        refine .bind ih fun rest => .done fun s hs => ?_
        rwa [List.append_assoc] at hs

end Leasing

end AecBench.Execution
