import AecBench.Execution.Operational.Consistency

/-!
# Concurrency caps

Any number of schedulers that share one database and one execution policy lease work items,
renew, release and expire leases and write work-item states, in any order and with any clocks.
The number of active leases never exceeds the policy's caps.

The caps are counted, inside the leasing transaction, over the join of the work items with
their active leases. Since every lease has its work item and a work item has one row, that is
the number of active leases on work items with a given value, whatever state the work items
are in.

## Main definitions

* `OperationalStore.activeOn` — the number of active leases on the work items of a kind.
* `WithinCaps` — the caps of a policy.
* `LeaseRequest.Follows`, `StoreOp.SharesPolicy` — the operations of schedulers that share a
  policy.

## Main results

* `activeRows_countP` — what the leasing transaction counts.
* `exec_activeOn_le` — no operation but a lease raises a count.
* `withinCaps_run` — the caps hold in every reachable state.
-/

namespace AecBench.Execution

open OperationalStore Program

/-- The number of active leases on work items that meet `q`. -/
def OperationalStore.activeOn (s : OperationalStore) (q : WorkItemRecord → Bool) : ℕ :=
  s.leases.countP fun l => decide (l.state = .active) && (s.workItem? l.workId).any q

/-- A limit on the active leases of each value of a column. -/
def Capped {κ : Type} [DecidableEq κ] (s : OperationalStore) (column : WorkItemRecord → κ)
    (limits : Limits κ) : Prop :=
  ∀ value limit, limits.lookup value = some limit →
    s.activeOn (fun w => column w = value) ≤ limit

/-- The active leases are within the caps of the policy, and no work item has two. -/
structure WithinCaps (policy : ExecutionPolicy) (s : OperationalStore) : Prop where
  concurrency : (s.leases.countP fun l => l.state = .active) ≤ policy.maxConcurrency
  runs : Capped s WorkItemRecord.runId policy.runLimits
  backends : Capped s WorkItemRecord.backend policy.backendLimits
  providerRoutes : Capped s WorkItemRecord.providerRoute policy.providerRouteLimits
  modelRoutes : Capped s WorkItemRecord.modelRoute policy.modelRouteLimits
  resourceClasses : Capped s WorkItemRecord.resourceClass policy.resourceClassLimits
  executionFamilies : Capped s WorkItemRecord.executionFamily policy.executionFamilyLimits
  one_lease : ∀ workId, (s.leases.countP fun l => l.workId = workId ∧ l.state = .active) ≤ 1

/-- The request asks for the limits of the policy. -/
structure LeaseRequest.Follows (request : LeaseRequest) (policy : ExecutionPolicy) : Prop where
  globalLimit : request.globalLimit = some policy.maxConcurrency
  runLimits : request.runLimits = policy.runLimits
  backendLimits : request.backendLimits = policy.backendLimits
  providerRouteLimits : request.providerRouteLimits = policy.providerRouteLimits
  modelRouteLimits : request.modelRouteLimits = policy.modelRouteLimits
  resourceClassLimits : request.resourceClassLimits = policy.resourceClassLimits
  executionFamilyLimits : request.executionFamilyLimits = policy.executionFamilyLimits

/-- Work is leased under the policy only. `acquire_lease`, which takes no limits, is not one of
these operations. -/
def StoreOp.SharesPolicy (policy : ExecutionPolicy) : ∀ {β : Type}, StoreOp β → Prop
  | _, .leaseNextWorkItem request => request.Follows policy
  | _, .acquireLease _ _ _ _ _ => False
  | _, _ => True

/-! ## Counting active leases -/

section Counting

variable {s s' : OperationalStore}

lemma activeRows_countP (hs : s.WellFormed) (q : WorkItemRecord → Bool) :
    s.activeRows.countP q = s.activeOn q :=
  Table.countP_join hs.works_keyed s.leases LeaseRecord.workId (fun l => l.state = .active) q

lemma activeRows_length (hs : s.WellFormed) :
    s.activeRows.length = s.leases.countP fun l => l.state = .active := by
  rw [← List.countP_true, activeRows_countP hs, activeOn]
  refine List.countP_congr fun l hl => ?_
  obtain ⟨w, hw, hwl⟩ := hs.lease_work l hl
  have hfound : s.workItem? l.workId = some w := hwl ▸ hs.works_keyed.lookup_of_mem hw
  simp [hfound]

variable {q : WorkItemRecord → Bool}

/-- The leases of `s'` that are active on work items of a kind were so in `s`, so they are no
more. The kind depends on fixed columns only. -/
lemma activeOn_le (hs : s.WellFormed) (hs' : s'.WellFormed) (hext : Extends s s')
    (hactive : ∀ l' ∈ s'.leases, l'.state = .active →
      ∃ l ∈ s.leases, l.frozen = l'.frozen ∧ l.state = .active) (hq : ∀ w, q w.frozen = q w) :
    s'.activeOn q ≤ s.activeOn q := by
  simp only [activeOn, List.countP_eq_length_filter]
  rw [← List.length_map LeaseRecord.leaseId, ← List.length_map LeaseRecord.leaseId]
  refine (List.subperm_of_subset ?_ ?_).length_le
  · exact hs'.leases_keyed.sublist (List.filter_sublist.map _)
  · intro id hid
    obtain ⟨l', hl', rfl⟩ := List.mem_map.mp hid
    rw [List.mem_filter, Bool.and_eq_true, decide_eq_true_eq] at hl'
    obtain ⟨hl', hst', hkind'⟩ := hl'
    obtain ⟨l, hl, hf, hst⟩ := hactive l' hl' hst'
    refine List.mem_map.mpr ⟨l, ?_, WellFormed.column_eq LeaseRecord.leaseId (fun _ => by rfl) hf⟩
    rw [List.mem_filter, Bool.and_eq_true, decide_eq_true_eq]
    refine ⟨hl, hst, ?_⟩
    -- the work item of the lease is the same row, up to mutable columns
    obtain ⟨w, hw, hwl⟩ := hs.lease_work l hl
    have hfound : s.workItem? l.workId = some w := hwl ▸ hs.works_keyed.lookup_of_mem hw
    obtain ⟨w', hfound', hwf⟩ := hext.workItem? hfound
    rw [WellFormed.column_eq LeaseRecord.workId (fun _ => by rfl) hf] at hfound hfound'
    rw [hfound'] at hkind'
    rw [WellFormed.column_eq LeaseRecord.workId (fun _ => by rfl) hf, hfound]
    simp only [Option.any_some] at hkind' ⊢
    rw [← hq w, ← hwf, hq w', hkind']

lemma OperationalStore.Updates.activeOn_le (hs : s.WellFormed) (h : Updates s s')
    (hq : ∀ w, q w.frozen = q w) : s'.activeOn q ≤ s.activeOn q :=
  Execution.activeOn_le hs (hs.updates h) (.updates h) h.active hq

lemma activeOn_grant (hs : s.WellFormed) {lease : LeaseRecord} {now : Time} {w : WorkItemRecord}
    (hw : w ∈ s.workItems) (hwl : w.workId = lease.workId) (hq : ∀ w, q w.frozen = q w) :
    (s.grant lease now).activeOn q ≤ s.activeOn q + if q w then 1 else 0 := by
  have hkind : ∀ id, ((s.grant lease now).workItem? id).any q = (s.workItem? id).any q := by
    intro id
    have hlook : (s.grant lease now).workItem? id = (s.workItem? id).map fun w =>
        if w.workId = lease.workId then { w with state := .leased, updatedAt := now } else w :=
      Table.lookup_updateWhere (fun _ _ => by rfl) id s.workItems
    rw [hlook]
    cases s.workItem? id with
    | none => rfl
    | some w =>
      simp only [Option.map_some, Option.any_some]
      split_ifs
      · rw [← hq w]; exact (hq _).symm
      · rfl
  have hfound : s.workItem? lease.workId = some w := hwl ▸ hs.works_keyed.lookup_of_mem hw
  have hleases : (s.grant lease now).leases = s.leases ++ [lease] := rfl
  simp only [activeOn, hkind, hleases, List.countP_append, List.countP_singleton, hfound,
    Option.any_some]
  refine Nat.add_le_add_left ?_ _
  by_cases hqw : q w = true
  · simp only [hqw, Bool.and_true, if_true]
    split_ifs <;> simp
  · simp [Bool.not_eq_true _ ▸ hqw]

lemma exec_activeOn_le {β : Type} (clock : Time) {op : StoreOp β} (hop : op.grants = false)
    (hs : s.WellFormed) (hq : ∀ w, q w.frozen = q w) :
    (op.exec clock s).2.activeOn q ≤ s.activeOn q :=
  activeOn_le hs (StoreOp.exec_wellFormed clock op hs) (StoreOp.exec_extends clock op s)
    ((StoreOp.exec_effect clock op s).active_of_not_grants hop) hq

end Counting

/-! ## The caps -/

section Caps

variable {s s' : OperationalStore} {policy : ExecutionPolicy}

lemma activeLeases_le_one (hs : s.WellFormed) (workId : Uuid) :
    (s.leases.countP fun l => l.workId = workId ∧ l.state = .active) ≤ 1 := by
  rw [List.countP_eq_length_filter]
  have hmem : ∀ l ∈ s.leases.filter fun l => l.workId = workId ∧ l.state = .active,
      l ∈ s.leases ∧ l.workId = workId ∧ l.state = .active := fun l hl => by
    simpa using List.mem_filter.mp hl
  have hnodup : ((s.leases.filter fun l => l.workId = workId ∧ l.state = .active).map
      LeaseRecord.leaseId).Nodup := hs.leases_keyed.sublist (List.filter_sublist.map _)
  generalize (s.leases.filter fun l => l.workId = workId ∧ l.state = .active) = rows
    at hmem hnodup ⊢
  match rows with
  | [] => exact Nat.zero_le _
  | [_] => exact Nat.le_refl _
  | a :: b :: rows =>
    obtain ⟨ha, hwa, hsa⟩ := hmem a List.mem_cons_self
    obtain ⟨hb, hwb, hsb⟩ := hmem b (List.mem_cons_of_mem _ List.mem_cons_self)
    have heq := hs.one_active a ha b hb hsa hsb (hwa.trans hwb.symm)
    simp [heq] at hnodup

lemma activeOn_true (hs : s.WellFormed) :
    (s.leases.countP fun l => l.state = .active) = s.activeOn fun _ => true := by
  rw [← activeRows_length hs, ← activeRows_countP hs, List.countP_true]

lemma WithinCaps.of_le (hs : s.WellFormed) (hs' : s'.WellFormed) (h : WithinCaps policy s)
    (hle : ∀ q : WorkItemRecord → Bool, (∀ w, q w.frozen = q w) → s'.activeOn q ≤ s.activeOn q) :
    WithinCaps policy s' where
  concurrency := by
    have hall := hle (fun _ => true) fun _ => rfl
    rw [← activeOn_true hs, ← activeOn_true hs'] at hall
    exact hall.trans h.concurrency
  runs value limit hl := (hle _ fun _ => rfl).trans (h.runs value limit hl)
  backends value limit hl := (hle _ fun _ => rfl).trans (h.backends value limit hl)
  providerRoutes value limit hl := (hle _ fun _ => rfl).trans (h.providerRoutes value limit hl)
  modelRoutes value limit hl := (hle _ fun _ => rfl).trans (h.modelRoutes value limit hl)
  resourceClasses value limit hl := (hle _ fun _ => rfl).trans (h.resourceClasses value limit hl)
  executionFamilies value limit hl :=
    (hle _ fun _ => rfl).trans (h.executionFamilies value limit hl)
  one_lease := activeLeases_le_one hs'

/-- A lease granted to a work item whose value is under its limit keeps the limit. -/
lemma Capped.grant {κ : Type} [DecidableEq κ] {column : WorkItemRecord → κ} {limits : Limits κ}
    (hs : s.WellFormed) (hcap : Capped s column limits) (hcol : ∀ w, column w.frozen = column w)
    {lease : LeaseRecord} {now : Time} {w : WorkItemRecord} (hw : w ∈ s.workItems)
    (hwl : w.workId = lease.workId)
    (hunder : underLimit (column w) limits (s.activeRows.countP fun a => column a = column w)
      = true) :
    Capped (s.grant lease now) column limits := by
  intro value limit hlimit
  have hgrant : (s.grant lease now).activeOn (fun v => column v = value) ≤
      s.activeOn (fun v => column v = value) + if decide (column w = value) then 1 else 0 :=
    activeOn_grant hs hw hwl fun v => by simp only [hcol]
  by_cases hvalue : column w = value
  · subst hvalue
    rw [underLimit, hlimit, activeRows_countP hs, decide_eq_true_eq] at hunder
    simp only [decide_true, if_true] at hgrant
    omega
  · simp only [hvalue, decide_false, Bool.false_eq_true, if_false] at hgrant
    exact hgrant.trans (hcap value limit hlimit)

lemma WithinCaps.grant (hs : s.WellFormed) (h : WithinCaps policy s) {request : LeaseRequest}
    (hfollows : request.Follows policy) {w : WorkItemRecord}
    (hselect : s.selectCandidate request = some w) {lease : LeaseRecord} {now : Time}
    (hwl : w.workId = lease.workId) (hs' : (s.grant lease now).WellFormed) :
    WithinCaps policy (s.grant lease now) := by
  obtain ⟨hw, -, -, hfull, hadmits⟩ := selectCandidate_eq_some hselect
  simp only [LeaseRequest.admits, Bool.and_eq_true, hfollows.runLimits, hfollows.backendLimits,
    hfollows.providerRouteLimits, hfollows.modelRouteLimits, hfollows.resourceClassLimits,
    hfollows.executionFamilyLimits] at hadmits
  obtain ⟨⟨⟨⟨⟨hrun, hbackend⟩, hprovider⟩, hmodel⟩, hresource⟩, hfamily⟩ := hadmits
  refine
    { concurrency := ?_
      runs := h.runs.grant hs (fun _ => rfl) hw hwl hrun
      backends := h.backends.grant hs (fun _ => rfl) hw hwl hbackend
      providerRoutes := h.providerRoutes.grant hs (fun _ => rfl) hw hwl hprovider
      modelRoutes := h.modelRoutes.grant hs (fun _ => rfl) hw hwl hmodel
      resourceClasses := h.resourceClasses.grant hs (fun _ => rfl) hw hwl hresource
      executionFamilies := h.executionFamilies.grant hs (fun _ => rfl) hw hwl hfamily
      one_lease := activeLeases_le_one hs' }
  have hgrant : (s.grant lease now).activeOn (fun _ => true) ≤ s.activeOn (fun _ => true) + 1 :=
    activeOn_grant hs hw hwl fun _ => rfl
  rw [← activeOn_true hs', ← activeOn_true hs] at hgrant
  rw [LeaseRequest.full, hfollows.globalLimit, decide_eq_false_iff_not, activeRows_length hs]
    at hfull
  omega

lemma withinCaps_step {β : Type} (clock : Time) {op : StoreOp β} (hop : op.SharesPolicy policy)
    (hs : s.WellFormed) (h : WithinCaps policy s) : WithinCaps policy (op.exec clock s).2 := by
  have hs' := StoreOp.exec_wellFormed clock op hs
  cases hg : op.grants with
  | false => exact h.of_le hs hs' fun q hq => exec_activeOn_le clock hg hs hq
  | true =>
    have heffect := StoreOp.exec_effect clock op s
    generalize (op.exec clock s).2 = s' at heffect hs' ⊢
    have hcaps {t : OperationalStore} (hu : Updates s t) : WithinCaps policy t :=
      h.of_le hs (hs.updates hu) fun q hq => hu.activeOn_le hs hq
    cases heffect with
    | unchanged => exact h
    | sweepOnly => exact hcaps (.sweep s _ _)
    | leaseNextWorkItem hselect _ =>
      exact (hcaps (.sweep s _ _)).grant (hs.updates (.sweep s _ _)) hop hselect rfl hs'
    | acquireSweep | acquireQueued | acquireEnded => exact hop.elim
    | _ => cases hg

/-- The caps hold in every state that schedulers sharing the policy reach. -/
theorem withinCaps_run {Site : Type} (policy : ExecutionPolicy)
    (es : List (PoolEvent Site StoreOp StoreError Time))
    (hes : ∀ e ∈ es, EventIssues (fun _ _ op => op.SharesPolicy policy)
      (fun _ op => op.SharesPolicy policy) e) :
    WithinCaps policy ((pool semantics).run ⟨.empty, []⟩ es).shared := by
  have hempty : WithinCaps policy .empty := by
    constructor <;> simp [OperationalStore.empty, Capped, activeOn]
  have hinv := pool_preserves (S := semantics)
    (I := fun s => s.WellFormed ∧ WithinCaps policy s)
    (P := fun _ (_ : Site) op => op.SharesPolicy policy) (D := fun _ op => op.SharesPolicy policy)
    (fun s call hcall h => ⟨StoreOp.exec_wellFormed call.input call.op h.1,
      withinCaps_step call.input (hcall.elim (fun hsite => hsite.choose_spec) id) h.1 h.2⟩)
    (c := ⟨.empty, []⟩) ⟨⟨.empty, hempty⟩, by simp⟩ hes
  exact hinv.shared.2

lemma ExecutionPolicy.leaseRequest_follows (policy : ExecutionPolicy) (owner : String)
    (now : Time) : (policy.leaseRequest owner now).Follows policy :=
  ⟨rfl, rfl, rfl, rfl, rfl, rfl, rfl⟩

/-- A work item is created, leased, put back to the queue by a state update while its lease is
active, and asked for again: it is not leased twice. -/
def leaseTwice (policy : ExecutionPolicy) : List (PoolEvent Unit StoreOp StoreError Time) :=
  enqueueItem (sampleItem .default) 0 ++
    [.direct (.leaseNextWorkItem (policy.leaseRequest "first" 0)) 0,
      .direct (.updateWorkItem 4 .queued none none) 0,
      .direct (.leaseNextWorkItem (policy.leaseRequest "second" 0)) 0]

theorem withinCaps_leaseTwice :
    ((pool semantics).run ⟨.empty, []⟩ (leaseTwice (.ofConcurrency 2 (by decide)))).shared.leases.map
        LeaseRecord.owner = ["first"] ∧
      WithinCaps (.ofConcurrency 2 (by decide)) ((pool semantics).run ⟨.empty, []⟩
        (leaseTwice (.ofConcurrency 2 (by decide)))).shared := by
  refine ⟨by decide, withinCaps_run _ _ ?_⟩
  have hrequest := ExecutionPolicy.leaseRequest_follows (.ofConcurrency 2 (by decide))
  simp [leaseTwice, enqueueItem, EventIssues, StoreOp.SharesPolicy, hrequest]

end Caps

end AecBench.Execution
