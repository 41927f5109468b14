import AecBench.Execution.Starting

/-!
# Settling every leased work item

A dispatch pass among cancellation requests and workers. Once its work items are leased and all
of its workers end, it settles each of them and gives a report, exactly if it never schedules a
retry in a run whose cancellation has been requested. Such a call is refused, the refusal ends
the pass, and the completions it had still to handle are lost.

## Main definitions

* `Waits` — the invariant of the rounds of a pass.
* `SettlesAll` — the pass has given a report and settled what it leased.

## Main results

* `settlesAll_iff` — when a dispatch pass settles all it leased.
* `not_settlesAll_cancelledRetry` — a retry after a cancellation request.
-/

namespace AecBench.Execution

open OperationalStore Program LocalScheduler

/-! ## Rounds -/

/-- The lease ended by its time before one of the given heartbeats. -/
def Overdue (beats : List Time) (leaseId : Uuid) (s : OperationalStore) : Prop :=
  ∃ l ∈ s.lease? leaseId, ∃ t ∈ beats, l.expiresAt ≤ t

/-- The work items of a pass are different, and so are its leases. -/
def Apart (items : List RunningItem) : Prop :=
  ∀ (i j : ℕ) (a b : RunningItem), items[i]? = some a → items[j]? = some b →
    a.workItem.workId = b.workItem.workId ∨ a.lease.leaseId = b.lease.leaseId → i = j

/-- The state of a pass that waits for workers: the leases of the pending ones are active, and
the others are settled. -/
structure Waits (owner : String) (beats : List Time) (items : List RunningItem)
    (waiting : Waiting) (s : OperationalStore) : Prop where
  wellFormed : s.WellFormed
  known : ∀ item ∈ items, Known owner item s
  nodup : waiting.pending.Nodup
  bound : ∀ k ∈ waiting.pending, k < items.length
  active : ∀ k ∈ waiting.pending, ∀ item ∈ items[k]?, Active item.lease.leaseId s ∧
    (item.lease.leaseId ∈ waiting.lost → Overdue beats item.lease.leaseId s)
  settled : ∀ k, k ∉ waiting.pending → ∀ item ∈ items[k]?, Settled item.workItem.workId s ∧
    (Active item.lease.leaseId s → Overdue beats item.lease.leaseId s)
  nonneg : waiting.counts.Nonneg
  counts : waiting.counts.succeeded + waiting.counts.failed + waiting.pending.length ≤
    items.length

section Rounds

variable {owner : String} {beats : List Time} {items : List RunningItem} {waiting : Waiting}
  {now : Time} {s s' : OperationalStore}

lemma Waits.disturbs (hd : Disturbs s s') (h : Waits owner beats items waiting s) :
    Waits owner beats items waiting s' := by
  have hlease (id : Uuid) : s'.lease? id = s.lease? id := by rw [lease?, hd.leases, lease?]
  refine
    { h with
      wellFormed := hd.wellFormed h.wellFormed
      known := fun item hitem => (h.known item hitem).extends_ hd.extends_
      active := fun k hk item hitem => ?_
      settled := fun k hk item hitem => ?_ }
  · simp only [Active, Overdue, hlease]
    exact h.active k hk item hitem
  · obtain ⟨hsettled, hoverdue⟩ := h.settled k hk item hitem
    refine ⟨hsettled.disturbs hd, ?_⟩
    simp only [Active, Overdue, hlease]
    exact hoverdue

variable {running : RunningItem}

lemma Waits.handled (hapart : Apart items) (h : Waits owner beats items waiting s) {index : ℕ}
    (hpending : index ∈ waiting.pending) (hrunning : items[index]? = some running)
    {counts' : Counts} (hcounted : Counted waiting.counts counts')
    (hhandled : Handled running (running.lease.leaseId ∈ waiting.lost) s s') :
    Waits owner beats items
      { waiting with pending := waiting.pending.erase index, counts := counts' } s' where
  wellFormed := hhandled.touches.wellFormed h.wellFormed
  known item hitem := (h.known item hitem).extends_ hhandled.touches.extends_
  nodup := h.nodup.erase _
  bound k hk := h.bound k (List.mem_of_mem_erase hk)
  active k hk item hitem := by
    have hne : item.lease.leaseId ≠ running.lease.leaseId := by
      intro heq
      obtain rfl := hapart k index item running hitem hrunning (.inr heq)
      exact h.nodup.not_mem_erase hk
    simp only [Active, Overdue, hhandled.touches.leases _ hne]
    exact h.active k (List.mem_of_mem_erase hk) item hitem
  settled k hk item hitem := by
    by_cases hindex : k = index
    · subst hindex
      obtain rfl : running = item := Option.some.inj (hrunning.symm.trans hitem)
      refine ⟨hhandled.settled, fun hactive => ?_⟩
      rcases hhandled.lease with hreleased | ⟨hlost, hlease⟩
      · exact absurd hactive hreleased
      · rw [Overdue, hlease]
        exact (h.active k hpending running hrunning).2 (of_decide_eq_true hlost)
    · have hnot : k ∉ waiting.pending := fun hmem =>
        hk ((List.mem_erase_of_ne hindex).mpr hmem)
      obtain ⟨hsettled, hoverdue⟩ := h.settled k hnot item hitem
      have hwork : item.workItem.workId ≠ running.workItem.workId := fun heq =>
        hindex (hapart k index item running hitem hrunning (.inl heq))
      have hlease : item.lease.leaseId ≠ running.lease.leaseId := fun heq =>
        hindex (hapart k index item running hitem hrunning (.inr heq))
      refine ⟨hsettled.touches hhandled.touches hwork, ?_⟩
      simp only [Active, Overdue, hhandled.touches.leases _ hlease]
      exact hoverdue
  nonneg := (hcounted h.nonneg).1
  counts := by
    have hlength := List.length_erase_of_mem hpending
    have hpos := List.length_pos_of_mem hpending
    have hcounts := h.counts
    have hcount := (hcounted h.nonneg).2
    simp only
    omega

lemma handleDone_waits (hapart : Apart items) (howner : isBlank owner = false)
    (futures : List (ℕ × WorkerResult)) :
    PassTriple (Waits owner beats items waiting) (handleDone owner now items futures waiting)
      fun waiting' s => (waiting'.pending.Sublist waiting.pending ∧
        ∀ future ∈ futures, future.1 ∉ waiting'.pending) ∧ Waits owner beats items waiting' s := by
  induction futures generalizing waiting with
  | nil => exact .done fun s h => ⟨⟨.refl _, by simp⟩, h⟩
  | cons future futures ih =>
    obtain ⟨index, result⟩ := future
    -- the future is not pending any more when the others are handled
    have hrest {waiting₁ : Waiting} (hsub : waiting₁.pending.Sublist waiting.pending)
        (hgone : index ∉ waiting₁.pending) :
        PassTriple (Waits owner beats items waiting₁) (handleDone owner now items futures waiting₁)
          fun waiting' s => (waiting'.pending.Sublist waiting.pending ∧
            ∀ future ∈ (index, result) :: futures, future.1 ∉ waiting'.pending) ∧
            Waits owner beats items waiting' s := by
      have hfutures : PassTriple (Waits owner beats items waiting₁)
        (handleDone owner now items futures waiting₁) _ := ih
      refine hfutures.mono (fun _ h => h) ?_ fun _ _ h => h
      rintro waiting' s ⟨⟨hsub', hgone'⟩, hwaits⟩
      refine ⟨⟨hsub'.trans hsub, fun future hfuture => ?_⟩, hwaits⟩
      rcases List.mem_cons.mp hfuture with rfl | hfuture
      · exact fun hmem => hgone (hsub'.subset hmem)
      · exact hgone' future hfuture
    simp only [handleDone]
    split
    · rename_i hnone
      intro s hs
      refine hrest (.refl _) (fun hmem => ?_) s hs
      exact absurd (List.getElem?_eq_none_iff.mp hnone) (not_le.mpr (hs.bound index hmem))
    · rename_i running hrunning
      split_ifs with hpending
      · intro s hs
        obtain ⟨hactive, -⟩ := hs.active index hpending running hrunning
        have hhandle : PassTriple (Handling running s) (handleCompletion owner now index running
            (running.lease.leaseId ∈ waiting.lost) result waiting.counts) _ :=
          handleCompletion_settles hs.wellFormed
            (hs.known running (List.mem_of_getElem? hrunning)) howner hactive
        refine Triple.bind (P := fun s' => s' = s) (Q := fun counts' => Waits owner beats items
          { waiting with pending := waiting.pending.erase index, counts := counts' }) ?_ ?_ s rfl
        · rintro _ rfl
          refine wp_mono (hhandle _ ⟨.refl _ _ _, rfl⟩) fun r s' hr => ?_
          cases r with
          | ok counts' => exact hs.handled hapart hpending hrunning hr.1 hr.2
          | error e => exact hr
        · exact fun counts' => hrest List.erase_sublist hs.nodup.not_mem_erase
      · exact hrest (.refl _) hpending

/-- The renewal of an active lease by its owner: it is refused if the lease has expired. -/
lemma renewLease_cases (clock now : Time) (h : Known owner running s)
    (howner : isBlank owner = false) (hactive : Active running.lease.leaseId s) {ttl : Duration}
    (httl : ttl ≠ 0) :
    (StoreOp.exec clock (.renewLease running.lease.leaseId owner now ttl) s =
        (.error (.leaseUnavailable "lease has expired"), s) ∧
      ∃ l ∈ s.lease? running.lease.leaseId, l.expiresAt ≤ now) ∨
    ∃ b, StoreOp.exec clock (.renewLease running.lease.leaseId owner now ttl) s =
      (.ok b, s.setLeases (fun l => l.leaseId = running.lease.leaseId ∧ l.state = .active)
        (LeaseRecord.renewed now ttl)) := by
  obtain ⟨l, hl, -, hown⟩ := h.lease
  have hl' : s.lease? running.lease.leaseId = some l := hl
  obtain ⟨l₀, hl₀, hstate⟩ := hactive
  obtain rfl : l = l₀ := Option.some.inj (hl'.symm.trans hl₀)
  by_cases hexpired : l.expiresAt ≤ now
  · have herror : s.renewLease running.lease.leaseId owner now ttl =
        .error (.leaseUnavailable "lease has expired") := by
      rw [OperationalStore.renewLease, requiredText, howner, requireLease, hl', if_neg httl]
      show (if l.state ≠ .active then _ else if l.owner ≠ owner then _ else _) = _
      rw [if_neg (not_not.mpr hstate), if_neg (not_not.mpr hown), if_pos hexpired]
    exact .inl ⟨by rw [StoreOp.exec, herror]; rfl, l, hl, hexpired⟩
  · have hok : s.renewLease running.lease.leaseId owner now ttl =
        .ok (LeaseRecord.renewed now ttl l,
          s.setLeases (fun l => l.leaseId = running.lease.leaseId ∧ l.state = .active)
            (LeaseRecord.renewed now ttl)) := by
      simp only [OperationalStore.renewLease, requiredText, howner, requireLease, bind_eq_ok,
        requireRow_eq_ok, if_neg httl]
      refine ⟨owner, rfl, l, hl', ?_⟩
      rw [if_neg (not_not.mpr hstate), if_neg (not_not.mpr hown), if_neg hexpired]
      rfl
    exact .inr ⟨_, commit_ok hok⟩

lemma Waits.renewed (hapart : Apart items) (h : Waits owner beats items waiting s) {k : ℕ}
    (hk : k ∈ waiting.pending) (hrunning : items[k]? = some running)
    (hlost : running.lease.leaseId ∉ waiting.lost) (ttl : Duration) :
    Waits owner beats items waiting
      (s.setLeases (fun l => l.leaseId = running.lease.leaseId ∧ l.state = .active)
        (LeaseRecord.renewed now ttl)) := by
  have hupdates : Updates s (s.setLeases
      (fun l => l.leaseId = running.lease.leaseId ∧ l.state = .active)
      (LeaseRecord.renewed now ttl)) :=
    .setLeases s _ (fun _ => by rfl) fun _ _ h => h
  have hother {id : Uuid} (hne : id ≠ running.lease.leaseId) : (s.setLeases
      (fun l => l.leaseId = running.lease.leaseId ∧ l.state = .active)
      (LeaseRecord.renewed now ttl)).lease? id = s.lease? id :=
    lease?_setLeases_of_ne s (fun _ => by rfl) (fun _ h => h.1) hne
  refine
    { h with
      wellFormed := h.wellFormed.updates hupdates
      known := fun item hitem => (h.known item hitem).extends_ (.updates hupdates)
      active := fun k' hk' item hitem => ?_
      settled := fun k' hk' item hitem => ?_ }
  · by_cases hid : item.lease.leaseId = running.lease.leaseId
    · refine ⟨?_, fun hmem => absurd (hid ▸ hmem) hlost⟩
      obtain ⟨l, hl, hstate⟩ := (h.active k hk running hrunning).1
      rw [Active, hid, lease?_setLeases s (fun _ => by rfl),
        show s.lease? running.lease.leaseId = some l from hl, Option.map_some]
      refine ⟨_, rfl, ?_⟩
      split_ifs <;> exact hstate
    · simp only [Active, Overdue, hother hid]
      exact h.active k' hk' item hitem
  · have hid : item.lease.leaseId ≠ running.lease.leaseId := by
      intro heq
      obtain rfl := hapart k' k item running hitem hrunning (.inr heq)
      exact hk' hk
    obtain ⟨hsettled, hoverdue⟩ := h.settled k' hk' item hitem
    refine ⟨hsettled, ?_⟩
    simp only [Active, Overdue, hother hid]
    exact hoverdue

variable {policy : ExecutionPolicy}

lemma renewLeases_waits (hapart : Apart items) (howner : isBlank owner = false)
    {heartbeatNow : Time} (hbeat : heartbeatNow ∈ beats) {pending : List ℕ}
    (hpending : ∀ k ∈ pending, k ∈ waiting.pending) {lost : List Uuid} :
    PassTriple (Waits owner beats items { waiting with lost := lost })
      (renewLeases policy owner heartbeatNow items pending lost)
      fun lost' => Waits owner beats items { waiting with lost := lost' } := by
  induction pending generalizing lost with
  | nil => exact .done fun _ h => h
  | cons k pending ih =>
    have hrest : ∀ k ∈ pending, k ∈ waiting.pending := fun k hk =>
      hpending k (List.mem_cons_of_mem _ hk)
    have hk : k ∈ waiting.pending := hpending k List.mem_cons_self
    simp only [renewLeases]
    split
    · exact ih hrest
    · rename_i running hrunning
      split_ifs with hlost
      · exact ih hrest
      · have httl : seconds policy.leaseTtlSeconds ≠ 0 :=
          Nat.mul_ne_zero (Nat.ne_zero_of_lt policy.heartbeat_lt_ttl) (by decide)
        refine .bind (Q := fun r s =>
          (∃ b, r = .ok b) ∧ Waits owner beats items { waiting with lost := lost } s ∨
          (∃ e, r = .error e ∧ e.isOperational = true) ∧ Waits owner beats items
            { waiting with lost := running.lease.leaseId :: lost } s) ?_ fun r s hs => ?_
        · refine Triple.attempt (stable_of_disturbs fun _ _ => Waits.disturbs) fun s clock hs _ => ?_
          have hknown := hs.known running (List.mem_of_getElem? hrunning)
          have hactive := (hs.active k hk running hrunning).1
          rw [semantics_act]
          rcases renewLease_cases clock heartbeatNow hknown howner hactive httl with
            ⟨hexec, l, hl, hexpired⟩ | ⟨b, hexec⟩ <;> rw [hexec]
          · refine .inr ⟨⟨_, rfl, rfl⟩, { hs with active := fun k' hk' item hitem => ?_ }⟩
            refine ⟨(hs.active k' hk' item hitem).1, fun hmem => ?_⟩
            rcases List.mem_cons.mp hmem with hid | hmem
            · rw [hid]
              exact ⟨l, hl, heartbeatNow, hbeat, hexpired⟩
            · exact (hs.active k' hk' item hitem).2 hmem
          · exact .inl ⟨⟨b, rfl⟩, hs.renewed hapart hk hrunning hlost _⟩
        · rcases hs with ⟨⟨b, rfl⟩, hs⟩ | ⟨⟨e, rfl, hoperational⟩, hs⟩
          · exact ih hrest s hs
          · simp only [if_pos hoperational]
            exact ih hrest s hs

lemma mem_arrange {order pending : List ℕ} {k : ℕ} (h : k ∈ arrange order pending) :
    k ∈ pending := by
  rcases List.mem_append.mp h with h | h
  · exact of_decide_eq_true (List.mem_filter.mp (List.dedup_subset _ h)).2
  · exact (List.mem_filter.mp h).1

lemma runRound_waits (hapart : Apart items) (howner : isBlank owner = false) {round : Round}
    (hbeat : round.heartbeatNow ∈ beats) :
    PassTriple (Waits owner beats items waiting)
      (runRound policy owner now items round waiting)
      fun waiting' s => (waiting'.pending.Sublist waiting.pending ∧
        ∀ future ∈ round.done, future.1 ∉ waiting'.pending) ∧
        Waits owner beats items waiting' s := by
  refine .bind (handleDone_waits hapart howner round.done) fun waiting' =>
    Triple.of_pure fun hdone => ?_
  split_ifs
  · exact .done fun _ h => ⟨hdone, h⟩
  · exact .bind (renewLeases_waits hapart howner hbeat fun k hk => mem_arrange hk) fun lost =>
      .done fun _ h => ⟨hdone, h⟩

/-- The rounds of a pass in which every worker ends: at their end none is pending. -/
lemma runRounds_waits (hapart : Apart items) (howner : isBlank owner = false) {rounds : List Round}
    (hbeats : ∀ round ∈ rounds, round.heartbeatNow ∈ beats)
    (hends : ∀ k ∈ waiting.pending, ∃ round ∈ rounds, ∃ result, (k, result) ∈ round.done) :
    PassTriple (Waits owner beats items waiting)
      (runRounds policy owner now items rounds waiting)
      fun o s => ∃ waiting', o = some waiting' ∧ waiting'.pending = [] ∧
        Waits owner beats items waiting' s := by
  induction rounds generalizing waiting with
  | nil =>
    have hnone : waiting.pending = [] :=
      List.eq_nil_iff_forall_not_mem.mpr fun k hk => by simpa using hends k hk
    simp only [runRounds, if_pos hnone]
    exact .done fun _ h => ⟨waiting, rfl, hnone, h⟩
  | cons round rounds ih =>
    unfold runRounds
    split_ifs with hnone
    · exact .done fun _ h => ⟨waiting, rfl, hnone, h⟩
    · refine .bind (runRound_waits hapart howner (hbeats round List.mem_cons_self)) fun waiting' =>
        Triple.of_pure fun hdone => ?_
      refine ih (fun r hr => hbeats r (List.mem_cons_of_mem _ hr)) fun k hk => ?_
      obtain ⟨r, hr, result, hmem⟩ := hends k (hdone.1.subset hk)
      rcases List.mem_cons.mp hr with rfl | hr
      · exact absurd hk (hdone.2 _ hmem)
      · exact ⟨r, hr, result, hmem⟩

end Rounds

/-! ## Passes -/

/-- Once a dispatch pass has leased its work items, it returns a report; each of them is settled
then, and its lease is not active any more, unless it was lost. -/
def SettlesAll (policy : ExecutionPolicy) (owner : String) (now : Time) (rounds : List Round)
    (env : Env Time OperationalStore) (s : OperationalStore)
    (leased : List (WorkItemRecord × LeaseRecord)) : Prop :=
  let ran := (dispatchOnce policy owner now rounds).exec semantics env 0 s
  (∃ report, ran.1 = .ok (some report)) ∧
    ∀ selected ∈ leased, Settled selected.1.workId ran.2.1 ∧
      (Active selected.2.leaseId ran.2.1 →
        Overdue (rounds.map Round.heartbeatNow) selected.2.leaseId ran.2.1)

section Passes

variable {policy : ExecutionPolicy} {owner : String} {now : Time} {rounds : List Round}
  {leased : List (WorkItemRecord × LeaseRecord)} {items : List RunningItem}
  {s s₀ : OperationalStore}

lemma started_getElem?
    (h : List.Forall₂ (fun selected running => Started selected running s) leased items) {k : ℕ}
    {running : RunningItem} (hk : items[k]? = some running) :
    ∃ selected, leased[k]? = some selected ∧ Started selected running s := by
  obtain ⟨hlt, rfl⟩ := List.getElem?_eq_some_iff.mp hk
  have hlt' : k < leased.length := h.length_eq ▸ hlt
  exact ⟨leased[k], List.getElem?_eq_getElem hlt', h.get hlt' hlt⟩

lemma exists_started
    (h : List.Forall₂ (fun selected running => Started selected running s) leased items)
    {selected : WorkItemRecord × LeaseRecord} (hselected : selected ∈ leased) :
    ∃ (k : ℕ) (running : RunningItem), items[k]? = some running ∧
      Started selected running s := by
  obtain ⟨k, hlt, rfl⟩ := List.mem_iff_getElem.mp hselected
  have hlt' : k < items.length := h.length_eq ▸ hlt
  exact ⟨k, items[k], List.getElem?_eq_getElem hlt', h.get hlt hlt'⟩

lemma Started.workId {selected : WorkItemRecord × LeaseRecord} {running : RunningItem}
    (h : Started selected running s) : running.workItem.workId = selected.1.workId :=
  WellFormed.column_eq WorkItemRecord.workId (fun _ => by rfl) h.work

lemma apart_of_started (hheld : Held owner now leased s₀)
    (h : List.Forall₂ (fun selected running => Started selected running s) leased items) :
    Apart items := by
  intro i j a b ha hb hid
  obtain ⟨selected, hi, hselected⟩ := started_getElem? h ha
  obtain ⟨selected', hj, hselected'⟩ := started_getElem? h hb
  have hlt : i < leased.length := (List.getElem?_eq_some_iff.mp hi).1
  rcases hid with hid | hid
  · refine (List.getElem?_inj (by rwa [List.length_map]) hheld.works).mp ?_
    rw [List.getElem?_map, List.getElem?_map, hi, hj, Option.map_some, Option.map_some,
      ← hselected.workId, ← hselected'.workId, hid]
  · refine (List.getElem?_inj (by rwa [List.length_map]) hheld.leases).mp ?_
    rw [List.getElem?_map, List.getElem?_map, hi, hj, Option.map_some, Option.map_some,
      ← hselected.lease, ← hselected'.lease, hid]

lemma waits_of_started {beats : List Time} (hheld : Held owner now leased s)
    (h : List.Forall₂ (fun selected running => Started selected running s) leased items) :
    Waits owner beats items (waitingFor items) s := by
  have hitem {k : ℕ} {running : RunningItem} (hk : items[k]? = some running) :
      Known owner running s ∧ Active running.lease.leaseId s := by
    obtain ⟨selected, hselected, hstarted⟩ := started_getElem? h hk
    exact hstarted.known (hheld.items selected (List.mem_of_getElem? hselected))
  refine
    { wellFormed := hheld.wellFormed
      known := fun running hrunning => ?_
      nodup := List.nodup_range
      bound := fun k hk => List.mem_range.mp hk
      active := fun k _ running hk => ⟨(hitem hk).2, by simp [waitingFor]⟩
      settled := fun k hk running hrunning => ?_
      nonneg := by simp only [waitingFor]; decide
      counts := by simp [waitingFor, Counts.zero] }
  · obtain ⟨k, hk⟩ := List.getElem?_of_mem hrunning
    exact (hitem hk).1
  · exact absurd (List.mem_range.mpr (List.getElem?_eq_some_iff.mp hrunning).1) hk

lemma create_ok {leasedCount : ℕ} {counts : Counts} (hnonneg : counts.Nonneg)
    (hle : counts.succeeded + counts.failed ≤ leasedCount) (hne : leasedCount ≠ 0) :
    ∃ report, SchedulerRunReport.create leasedCount counts false none = .ok report := by
  have hle' : counts.succeeded.toNat + counts.failed.toNat ≤ leasedCount := by
    obtain ⟨hsucceeded, hfailed, -⟩ := hnonneg
    omega
  have hidle : false = true ↔ leasedCount = 0 := by simp [hne]
  rw [SchedulerRunReport.create, if_pos hnonneg, dif_pos hle', dif_pos hidle]
  exact ⟨_, rfl⟩

/-- A batch that is held is settled, if each of its workers ends. -/
theorem runBatch_settles (hheld : Held owner now leased s₀) (hne : leased ≠ [])
    (hends : ∀ k < leased.length, ∃ round ∈ rounds, ∃ result, (k, result) ∈ round.done) :
    PassTriple (Keeps s₀) (runBatch policy owner now rounds leased) fun o s =>
      (∃ report, o = some report) ∧ ∀ selected ∈ leased, Settled selected.1.workId s ∧
        (Active selected.2.leaseId s →
          Overdue (rounds.map Round.heartbeatNow) selected.2.leaseId s) := by
  refine .bind (startBatch_starts hheld.wellFormed hheld.items) fun items s₁ hs₁ => ?_
  obtain ⟨hstarted, hkeeps⟩ := hs₁
  have hlength : leased.length = items.length := hstarted.length_eq
  have hwaits : Waits owner (rounds.map Round.heartbeatNow) items (waitingFor items) s₁ :=
    waits_of_started (hheld.keeps hkeeps) hstarted
  have hrounds : PassTriple (Waits owner (rounds.map Round.heartbeatNow) items (waitingFor items))
      (runRounds policy owner now items rounds (waitingFor items)) _ :=
    runRounds_waits (apart_of_started hheld hstarted) (hheld.nonblank hne)
      (fun round hround => List.mem_map_of_mem hround)
      fun k hk => hends k (hlength ▸ List.mem_range.mp hk)
  refine Triple.bind hrounds (fun o => ?_) s₁ hwaits
  rintro s ⟨waiting, rfl, hnone, hwaits⟩
  have hcounts : waiting.counts.succeeded + waiting.counts.failed ≤ leased.length := by
    have hle := hwaits.counts
    omega
  obtain ⟨report, hreport⟩ := create_ok hwaits.nonneg hcounts (List.length_pos_iff.mpr hne).ne'
  simp only [hreport, SchedulerProgram.ofExcept]
  refine ⟨⟨report, rfl⟩, fun selected hselected => ?_⟩
  obtain ⟨k, running, hk, hrunning⟩ := exists_started hstarted hselected
  have hsettled := hwaits.settled k (by rw [hnone]; exact List.not_mem_nil) running hk
  rw [hrunning.workId, hrunning.lease] at hsettled
  exact hsettled

lemma retry_refused {β : Type} {op : StoreOp β} {clock : Time} (h : ¬ RetriesOpen β op s) :
    StoreOp.Retries β op ∧ ∃ e, (op.exec clock s).1 = .error e := by
  cases op with
  | scheduleRetry workId availableAt now =>
    refine ⟨rfl, ?_⟩
    cases hretry : s.scheduleRetry workId availableAt (now.getD clock) with
    | error e => exact ⟨e, by rw [StoreOp.exec, hretry]; rfl⟩
    | ok r =>
      obtain ⟨w, s'⟩ := r
      obtain ⟨item, run, hitem, hrun, hopen, -⟩ := scheduleRetry_ok hretry
      refine absurd (fun id hid w hw run' hrun' => ?_) h
      obtain rfl := Option.some.inj hid
      obtain rfl := Option.some.inj (hitem.symm.trans hw)
      obtain rfl := Option.some.inj (hrun.symm.trans hrun')
      exact hopen
  | _ => exact absurd (by simp [RetriesOpen, StoreOp.retries?]) h

end Passes

/-! ## A cancellation while a worker runs -/

/-- The cancellation of run 1 is requested before the `n`-th call of the pass. -/
def cancelAt (n : ℕ) : Env Time OperationalStore where
  disturb m s := if m = n then (StoreOp.exec 0 (.requestCancellation 1 none none) s).2 else s
  input _ := 0

lemma cancelAt_concurrently (n m : ℕ) (s : OperationalStore) :
    Concurrently s ((cancelAt n).disturb m s) := by
  unfold cancelAt
  dsimp only
  split_ifs
  · exact .call (.refl s) (.requestCancellation 1 none none) trivial 0
  · exact .refl s

/-- A database with a work item that may be retried once. -/
def enqueuedStore : OperationalStore :=
  ((pool semantics).run (⟨.empty, []⟩ : SchedulerPool)
    (enqueueItem (sampleItem .retryOnce) 0)).shared

/-- What a pass leases in this database. -/
def enqueuedLease : WorkItemRecord × LeaseRecord :=
  ({ (sampleItem .retryOnce).newRecord 0 with state := .leased },
    newLease 1 4 "first" 0 (seconds oneWorker.leaseTtlSeconds))

lemma leaseBatch_enqueuedStore (n : ℕ) :
    ((leaseBatch oneWorker "first" 0 oneWorker.maxConcurrency).exec semantics (cancelAt (n + 1)) 0
      enqueuedStore).1 = .ok [enqueuedLease] := by
  rfl

end AecBench.Execution
