import AecBench.Execution.Operational.Consistency

/-!
# How a work item changes state

Work items change state in many operations. This module says, for one work item, which states
an operation can move it to and what must hold for that. Three moves lead back to the queue:
the expiry of a lease without an attempt, the release of a lease under a work item that is
still leased or running, and the scheduling of a retry.

## Main definitions

* `StoreOp.sweepsAt` — the expiry an operation performs first.
* `StoreOp.Moves` — the state changes of one work item under an operation.

## Main results

* `sweep_workItem?`, `sweep_not_expired` — what an expiry does to one work item, and that no
  lease past its time stays active.
* `StoreOp.exec_moves` — an operation changes the state of a work item only as `Moves` says.
* `StoreOp.exec_leases` — a new lease is on a work item that is queued after the expiry.
-/

namespace AecBench.Execution

open OperationalStore

/-! ## Expiry -/

section Sweep

variable {s s' : OperationalStore}

lemma OperationalStore.Updates.attemptExists (h : Updates s s') (leaseId : Uuid) :
    s'.attemptExists leaseId = s.attemptExists leaseId := by
  have hany (t : OperationalStore) : t.attemptExists leaseId =
      (t.attempts.map AttemptRecord.leaseId).any fun id => id = some leaseId := by
    simp [OperationalStore.attemptExists, List.any_map, Function.comp_def]
  rw [hany, hany, Table.map_eq_of_map_eq (fun _ => by rfl) h.attempts]

lemma expireLease_workItem? (now : Time) (lease : LeaseRecord) (id : Uuid) :
    (s.expireLease now lease).workItem? id = (s.workItem? id).map fun w =>
      if w.workId = lease.workId ∧ expirableState w.state = true then
        { w with state := if s.attemptExists lease.leaseId = true then .unknown else .queued
                 updatedAt := now }
      else w :=
  Table.lookup_updateWhere (fun _ _ => by rfl) id s.workItems

/-- What the expiry of leases can do to a work item: nothing, make it unknown, or queue it
again, if one of its leases had no attempt. -/
inductive SweepMoves (s : OperationalStore) (now : Time) (runId : Option Uuid)
    (w : WorkItemRecord) : WorkItemState → Prop
  | stays : SweepMoves s now runId w w.state
  | lost {l : LeaseRecord} (hl : l ∈ s.expiredLeases now runId) (hwork : l.workId = w.workId)
      (hattempt : s.attemptExists l.leaseId = true) (hstate : expirableState w.state = true) :
      SweepMoves s now runId w .unknown
  | requeued {l : LeaseRecord} (hl : l ∈ s.expiredLeases now runId) (hwork : l.workId = w.workId)
      (hattempt : s.attemptExists l.leaseId = false) (hstate : expirableState w.state = true) :
      SweepMoves s now runId w .queued

lemma sweep_workItem? (now : Time) (runId : Option Uuid) {id : Uuid} {w : WorkItemRecord}
    (hw : s.workItem? id = some w) :
    ∃ w', (s.sweep now runId).workItem? id = some w' ∧ w'.frozen = w.frozen ∧
      SweepMoves s now runId w w'.state := by
  refine (sweep_induction (P := fun s' => Updates s s' ∧ ∃ w', s'.workItem? id = some w' ∧
    w'.frozen = w.frozen ∧ SweepMoves s now runId w w'.state) ?_
    ⟨.refl s, w, hw, rfl, .stays⟩).2
  rintro s' lease hlease ⟨hupdates, w', hw', hf, hmoves⟩
  refine ⟨hupdates.trans (.expireLease s' now lease), ?_⟩
  rw [expireLease_workItem?, hw', hupdates.attemptExists, Option.map_some]
  have hid' : w'.workId = w.workId := WellFormed.column_eq _ (fun _ => by rfl) hf
  refine ⟨_, rfl, ?_, ?_⟩
  · split_ifs <;> exact hf
  · split_ifs with hexpires hattempt
    · obtain ⟨hwork, hstate⟩ := hexpires
      generalize w'.state = state at hmoves hstate
      cases hmoves with
      | stays => exact .lost hlease (hwork.symm.trans hid') hattempt hstate
      | lost | requeued => cases hstate
    · obtain ⟨hwork, hstate⟩ := hexpires
      generalize w'.state = state at hmoves hstate
      cases hmoves with
      | stays =>
        exact .requeued hlease (hwork.symm.trans hid') (Bool.not_eq_true _ ▸ hattempt) hstate
      | lost | requeued => cases hstate
    · exact hmoves

lemma sweep_mem (hs : s.WellFormed) {now : Time} {runId : Option Uuid} {w' : WorkItemRecord}
    (hw' : w' ∈ (s.sweep now runId).workItems) :
    ∃ w ∈ s.workItems, w'.frozen = w.frozen ∧ SweepMoves s now runId w w'.state := by
  have hupdates : Updates s (s.sweep now runId) := .sweep s _ _
  obtain ⟨w, hw, hf⟩ := Table.mem_of_map_eq hupdates.workItems hw'
  have hid : w.workId = w'.workId := WellFormed.column_eq _ (fun _ => by rfl) hf
  obtain ⟨v, hv, hvf, hmoves⟩ := sweep_workItem? now runId
    (hs.works_keyed.lookup_of_mem hw)
  have hsame : v = w' := by
    refine (hs.updates hupdates).works_keyed.eq_of_key_eq (Table.mem_of_lookup hv).1 hw' ?_
    exact (Table.mem_of_lookup hv).2.trans hid
  subst hsame
  exact ⟨w, hw, hvf, hmoves⟩

/-- The lease row after its time has passed. -/
def LeaseRecord.ended (l : LeaseRecord) : LeaseRecord :=
  { l with state := .expired, releasedAt := some l.expiresAt }

lemma foldl_expireLease_leases (now : Time) (ended : List LeaseRecord) :
    (ended.foldl (fun s lease => s.expireLease now lease) s).leases =
      s.leases.map fun l => if ended.any fun x => x.leaseId = l.leaseId then l.ended else l := by
  induction ended generalizing s with
  | nil => simp
  | cons lease ended ih =>
    have hstep : (s.expireLease now lease).leases =
        s.leases.map fun l => if l.leaseId = lease.leaseId then l.ended else l := rfl
    rw [List.foldl_cons, ih, hstep, List.map_map]
    refine List.map_congr_left fun l _ => ?_
    simp only [Function.comp_apply, List.any_cons, Bool.or_eq_true, decide_eq_true_eq]
    by_cases h : l.leaseId = lease.leaseId
    · have hid : l.ended.leaseId = l.leaseId := rfl
      rw [if_pos h, hid, if_pos (Or.inl h.symm)]
      split_ifs <;> rfl
    · rw [if_neg h]
      simp [Ne.symm h]

lemma sweep_not_expired {now : Time} {l' : LeaseRecord} (hl' : l' ∈ (s.sweep now none).leases)
    (hactive : l'.state = .active) : now < l'.expiresAt := by
  rw [OperationalStore.sweep, foldl_expireLease_leases, List.mem_map] at hl'
  obtain ⟨l, hl, rfl⟩ := hl'
  split_ifs at hactive ⊢ with hended
  · cases hactive
  · by_contra hpast
    refine hended (List.any_eq_true.mpr ⟨l, List.mem_filter.mpr ⟨hl, ?_⟩, by simp⟩)
    simpa using ⟨hactive, not_lt.mp hpast⟩

end Sweep

lemma closeAfterCancellation_workItems (s : OperationalStore) (runId : Uuid) (now : Time) :
    (s.closeAfterCancellation runId now).workItems = s.workItems := by
  unfold closeAfterCancellation
  dsimp only
  split_ifs <;> rfl

/-! ## Operations -/

namespace StoreOp

/-- The expiry an operation performs: its time, and the run it is limited to. -/
def sweepsAt : ∀ {β : Type}, StoreOp β → Option (Time × Option Uuid)
  | _, .leaseNextWorkItem request => some (request.now, none)
  | _, .acquireLease _ _ now _ _ => some (now, none)
  | _, .expireLeases runId now => some (now, runId)
  | _, _ => none

/-- The states an operation can move the work item `w` to, and when. -/
inductive Moves (s : OperationalStore) (w : WorkItemRecord) :
    ∀ {β : Type}, StoreOp β → WorkItemState → Prop
  | stays {β : Type} {op : StoreOp β} : Moves s w op w.state
  | updated {state : WorkItemState} {availableAt now : Option Time} :
      Moves s w (.updateWorkItem w.workId state availableAt now) state
  | cancelled {runId : Uuid} {trialId : Option Uuid} {now : Option Time}
      (hscope : w.runId = runId ∧ trialId = none ∨ trialId = some w.trialId) :
      Moves s w (.requestCancellation runId trialId now) (cancelledState w.state)
  | retried {availableAt : Time} {now : Option Time} {run : RunRecord}
      (hstate : retryableState w.state = true) (hrun : s.run? w.runId = some run)
      (hopen : run.cancellationRequestedAt = none) :
      Moves s w (.scheduleRetry w.workId availableAt now) .queued
  | released {leaseId : Uuid} {owner : String} {now : Option Time} {l : LeaseRecord}
      (hlease : s.lease? leaseId = some l) (hactive : l.state = .active) (howner : l.owner = owner)
      (hwork : l.workId = w.workId) (hstate : w.state = .leased ∨ w.state = .running) :
      Moves s w (.releaseLease leaseId owner now) .queued
  | swept {β : Type} {op : StoreOp β} {now : Time} {runId : Option Uuid} {state : WorkItemState}
      (hop : op.sweepsAt = some (now, runId)) (hmoves : SweepMoves s now runId w state) :
      Moves s w op state
  | leased {β : Type} {op : StoreOp β} (hop : op.grants = true) : Moves s w op .leased

variable {β : Type} {op : StoreOp β} {s s' : OperationalStore}

variable {id : Uuid} {w : WorkItemRecord}

lemma setWorkItems_moves {p : WorkItemRecord → Prop} [DecidablePred p]
    {f : WorkItemRecord → WorkItemRecord} (hf : ∀ r, (f r).frozen = r.frozen)
    (hw : s.workItem? id = some w) (hmoves : p w → Moves s w op (f w).state) :
    ∃ w', (s.setWorkItems p f).workItem? id = some w' ∧ w'.frozen = w.frozen ∧
      Moves s w op w'.state := by
  rw [workItem?_setWorkItems s fun r => WellFormed.column_eq _ (fun _ => by rfl) (hf r), hw,
    Option.map_some]
  refine ⟨_, rfl, ?_, ?_⟩
  · split_ifs
    · exact hf w
    · rfl
  · split_ifs with h
    · exact hmoves h
    · exact .stays

lemma grant_moves {t : OperationalStore} {lease : LeaseRecord} {now : Time} {w₁ : WorkItemRecord}
    (hw : t.workItem? id = some w₁) (hf : w₁.frozen = w.frozen) (hgrants : op.grants = true)
    (hmoves : Moves s w op w₁.state) :
    ∃ w', (t.grant lease now).workItem? id = some w' ∧ w'.frozen = w.frozen ∧
      Moves s w op w'.state := by
  have hlook : (t.grant lease now).workItem? id = (t.workItem? id).map fun w =>
      if w.workId = lease.workId then { w with state := .leased, updatedAt := now } else w :=
    Table.lookup_updateWhere (fun _ _ => by rfl) id t.workItems
  rw [hlook, hw, Option.map_some]
  refine ⟨_, rfl, ?_, ?_⟩
  · split_ifs <;> exact hf
  · split_ifs
    · exact .leased hgrants
    · exact hmoves

/-- An operation changes the state of a work item only as `Moves` says. -/
theorem Effect.moves (h : Effect s op s') (hw : s.workItem? id = some w) :
    ∃ w', s'.workItem? id = some w' ∧ w'.frozen = w.frozen ∧ Moves s w op w'.state := by
  have hid : w.workId = id := (Table.mem_of_lookup hw).2
  have hsame : s'.workItems = s.workItems →
      ∃ w', s'.workItem? id = some w' ∧ w'.frozen = w.frozen ∧ Moves s w op w'.state :=
    fun heq => ⟨w, by rw [workItem?, heq]; exact hw, rfl, .stays⟩
  have hswept {now : Time} {runId : Option Uuid} (hop : op.sweepsAt = some (now, runId)) :
      ∃ w', (s.sweep now runId).workItem? id = some w' ∧ w'.frozen = w.frozen ∧
        Moves s w op w'.state := by
    obtain ⟨w', hw', hf, hmoves⟩ := sweep_workItem? now runId hw
    exact ⟨w', hw', hf, .swept hop hmoves⟩
  cases h with
  | @requestCancellation runId trialId now run t cancelled hrun hopen hcancelled =>
    have hcancel : ∃ w', cancelled.workItem? id = some w' ∧ w'.frozen = w.frozen ∧
        Moves s w (.requestCancellation runId trialId now) w'.state := by
      rcases applyCancellation_ok hcancelled with ⟨rfl, rfl⟩ | ⟨trial, row, rfl, -, -, rfl⟩
      · exact setWorkItems_moves (fun _ => by rfl) hw fun h => .cancelled (.inl ⟨h.1, rfl⟩)
      · exact setWorkItems_moves (fun _ => by rfl) hw fun h => .cancelled (.inr (by rw [h.1]))
    rw [workItem?, closeAfterCancellation_workItems]
    exact hcancel
  | completePlanIfTerminal =>
    refine hsame ?_
    unfold closePlan
    dsimp only
    split_ifs <;> rfl
  | @createWorkItem item now v t hnew _ _ _ hv =>
    refine ⟨w, ?_, rfl, .stays⟩
    have hlook : Table.lookup WorkItemRecord.workId id (s.workItems ++ [v]) = some w := by
      rw [Table.lookup_append_singleton, ← workItem?, hw]
      rfl
    exact hlook
  | @updateWorkItem workId state availableAt now t =>
    refine setWorkItems_moves (fun _ => by rfl) hw fun h => ?_
    subst h
    exact .updated
  | @scheduleRetry workId availableAt now item run t hitem hrun hopen =>
    have hretry : ∃ w', (s.setWorkItems
        (fun w => w.workId = workId ∧ retryableState w.state = true) fun w =>
          { w with state := .queued, availableAt := availableAt, updatedAt := t }).workItem? id =
            some w' ∧ w'.frozen = w.frozen ∧
          Moves s w (.scheduleRetry workId availableAt now) w'.state := by
      refine setWorkItems_moves (fun _ => by rfl) hw fun h => ?_
      obtain ⟨rfl, hstate⟩ := h
      obtain rfl : item = w := Option.some.inj (hitem.symm.trans (hid ▸ hw))
      exact .retried hstate hrun hopen
    exact hretry
  | sweepOnly => exact hswept rfl
  | leaseNextWorkItem hselect _ =>
    obtain ⟨w₁, hw₁, hf, hmoves⟩ := hswept rfl
    exact grant_moves hw₁ hf rfl hmoves
  | acquireSweep => exact hswept rfl
  | acquireQueued | acquireEnded =>
    obtain ⟨w₁, hw₁, hf, hmoves⟩ := hswept rfl
    exact grant_moves hw₁ hf rfl hmoves
  | @releaseLease leaseId owner now lease t hlease hactive howner =>
    have hrelease : ∃ w', (s.setWorkItems
        (fun w => w.workId = lease.workId ∧ (w.state = .leased ∨ w.state = .running)) fun w =>
          { w with state := .queued, updatedAt := t }).workItem? id = some w' ∧
          w'.frozen = w.frozen ∧ Moves s w (.releaseLease leaseId owner now) w'.state :=
      setWorkItems_moves (fun _ => by rfl) hw fun h =>
        .released hlease hactive howner h.1.symm h.2
    exact hrelease
  | expireLeases => exact hswept rfl
  | _ => exact hsame rfl

/-- An operation changes the state of a work item only as `Moves` says. -/
theorem exec_moves (clock : Time) (op : StoreOp β) (hw : s.workItem? id = some w) :
    ∃ w', (op.exec clock s).2.workItem? id = some w' ∧ w'.frozen = w.frozen ∧
      Moves s w op w'.state :=
  (exec_effect clock op s).moves hw

lemma Effect.workItems_of_not_enqueues (h : Effect s op s') (hop : ¬ op.Enqueues) :
    s'.workItems.map WorkItemRecord.frozen = s.workItems.map WorkItemRecord.frozen := by
  have hgrant {t : OperationalStore} (hu : Updates s t) (lease : LeaseRecord) (now : Time) :
      (t.grant lease now).workItems.map WorkItemRecord.frozen =
        s.workItems.map WorkItemRecord.frozen :=
    (Updates.markLeased { t with leases := t.leases ++ [lease] } lease.workId now).workItems.trans
      hu.workItems
  cases h with
  | requestCancellation _ _ hcancelled =>
    exact ((Updates.applyCancellation hcancelled).trans (.closeAfterCancellation _ _ _)).workItems
  | completePlanIfTerminal => exact (Updates.closePlan s _ _ _ _).workItems
  | createWorkItem => exact absurd trivial hop
  | updateWorkItem t => exact (Updates.setWorkItems s _ fun _ => by rfl).workItems
  | scheduleRetry => exact (Updates.requeue s _ _ _ _).workItems
  | sweepOnly | acquireSweep | expireLeases => exact (Updates.sweep s _ _).workItems
  | leaseNextWorkItem | acquireQueued => exact hgrant (.sweep s _ _) _ _
  | acquireEnded => exact hgrant (.trans (.sweep s _ _) (.endLease _ _)) _ _
  | releaseLease t => exact (Updates.release s _ _ t).workItems
  | _ => rfl

/-- A row of a work item after an operation that creates none comes from a row before it, whose
state moved as `Moves` says. -/
lemma exec_mem_workItems (clock : Time) (hs : s.WellFormed) (hop : ¬ op.Enqueues)
    {w' : WorkItemRecord} (hw' : w' ∈ (op.exec clock s).2.workItems) :
    ∃ w ∈ s.workItems, w'.frozen = w.frozen ∧ Moves s w op w'.state := by
  obtain ⟨w, hw, hf⟩ := Table.mem_of_map_eq ((exec_effect clock op s).workItems_of_not_enqueues hop)
    hw'
  obtain ⟨v, hv, hvf, hmoves⟩ := exec_moves clock op (hs.works_keyed.lookup_of_mem hw)
  have hid : w.workId = w'.workId := WellFormed.column_eq _ (fun _ => by rfl) hf
  have hsame : v = w' := (exec_wellFormed clock op hs).works_keyed.eq_of_key_eq
    (Table.mem_of_lookup hv).1 hw' ((Table.mem_of_lookup hv).2.trans hid)
  subst hsame
  exact ⟨w, hw, hvf, hmoves⟩

/-- A lease after an operation is an old one, or it is new and on a work item that is queued
after the expiry the operation begins with. -/
lemma Effect.leases (h : Effect s op s') {l' : LeaseRecord} (hl' : l' ∈ s'.leases) :
    (∃ l ∈ s.leases, l.frozen = l'.frozen) ∨
      s.lease? l'.leaseId = none ∧ ∃ now, op.sweepsAt = some (now, none) ∧
        ∃ w ∈ (s.sweep now none).workItems, w.workId = l'.workId ∧ w.state = .queued := by
  have hold (hu : Updates s s') : ∃ l ∈ s.leases, l.frozen = l'.frozen :=
    Table.mem_of_map_eq hu.leases hl'
  have hgrant {now : Time} {lease : LeaseRecord} {w : WorkItemRecord}
      (hgrantable : (s.sweep now none).Grantable lease) (hop : op.sweepsAt = some (now, none))
      (hw : w ∈ (s.sweep now none).workItems) (hid : w.workId = lease.workId)
      (hq : w.state = .queued) (hl' : l' ∈ ((s.sweep now none).grant lease now).leases) :
      (∃ l ∈ s.leases, l.frozen = l'.frozen) ∨
        s.lease? l'.leaseId = none ∧ ∃ now, op.sweepsAt = some (now, none) ∧
          ∃ w ∈ (s.sweep now none).workItems, w.workId = l'.workId ∧ w.state = .queued := by
    rcases List.mem_append.mp hl' with hl' | hl'
    · exact .inl (Table.mem_of_map_eq (Updates.sweep s now none).leases hl')
    · rw [List.mem_singleton.mp hl']
      exact .inr ⟨(Updates.sweep s now none).lease?_eq_none hgrantable.1, now, hop, w, hw, hid, hq⟩
  cases h with
  | requestCancellation _ _ hcancelled =>
    exact .inl (hold ((Updates.applyCancellation hcancelled).trans (.closeAfterCancellation _ _ _)))
  | completePlanIfTerminal => exact .inl (hold (.closePlan s _ _ _ _))
  | sweepOnly | acquireSweep | expireLeases => exact .inl (hold (.sweep s _ _))
  | leaseNextWorkItem hselect hgrantable =>
    obtain ⟨hw, hq, -⟩ := selectCandidate_eq_some hselect
    exact hgrant hgrantable rfl hw rfl hq hl'
  | acquireQueued hitem hqueued hgrantable =>
    obtain ⟨hw, hid⟩ := Table.mem_of_lookup hitem
    exact hgrant hgrantable rfl hw hid hqueued hl'
  | acquireEnded _ hexisting hactive hended _ =>
    exact absurd (sweep_not_expired hexisting hactive) (not_lt.mpr hended)
  | renewLease => exact .inl (hold (.setLeases s _ (fun _ => by rfl) fun _ _ h => h))
  | releaseLease t => exact .inl (hold (.release s _ _ t))
  | _ => exact .inl ⟨l', hl', rfl⟩

/-- A lease after an operation is an old one, or it is new and on a work item that is queued
after the expiry the operation begins with. -/
theorem exec_leases (clock : Time) (op : StoreOp β) {l' : LeaseRecord}
    (hl' : l' ∈ (op.exec clock s).2.leases) :
    (∃ l ∈ s.leases, l.frozen = l'.frozen) ∨
      s.lease? l'.leaseId = none ∧ ∃ now, op.sweepsAt = some (now, none) ∧
        ∃ w ∈ (s.sweep now none).workItems, w.workId = l'.workId ∧ w.state = .queued :=
  (exec_effect clock op s).leases hl'

end StoreOp

end AecBench.Execution
