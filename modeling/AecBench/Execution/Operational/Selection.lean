import Mathlib.Data.List.Dedup
import AecBench.Lib.Sorting
import AecBench.Execution.Operational.Transitions

/-!
# Fair selection of work

`lease_next_work_item` takes the least of the work items it may lease: items that have waited for
the aging time come first, by age, and the others come by priority. An aged item that may be leased
at every call therefore waits for older items only, whatever is enqueued after it.

## Main definitions

* `WorkItemRecord.Precedes` — the order in which items are taken.
* `OperationalStore.Eligible` — what a call may lease.
* `OperationalStore.calls` — calls of the store one after the other; `Waits` — at every call for
  work, an aged item may be leased.

## Main results

* `WorkItemRecord.precedes_total` and its siblings — the order is strict and total.
* `selectCandidate_spec` — the selected item is the least one that may be leased.
* `lease_next_fair` — what a call leases, and what is leased before an aged item.
* `idle_until_due` — when nothing can be leased before the time that the store reports.
-/

namespace AecBench.Execution

/-! ### The order of selection -/

namespace WorkItemRecord

/-- The item was created the aging time ago, or before. -/
def Aged (now : Time) (agingSeconds : ℕ) (w : WorkItemRecord) : Prop :=
  (seconds agingSeconds : ℤ) ≤ now - w.createdAt

instance decidableAged (now : Time) (agingSeconds : ℕ) (w : WorkItemRecord) :
    Decidable (w.Aged now agingSeconds) := inferInstanceAs (Decidable (_ ≤ _))

/-- By creation time, then by ordinal, then by id. -/
def Older (a b : WorkItemRecord) : Prop :=
  a.createdAt < b.createdAt ∨ a.createdAt = b.createdAt ∧
    (a.ordinal < b.ordinal ∨ a.ordinal = b.ordinal ∧ a.workId < b.workId)

instance decidableOlder (a b : WorkItemRecord) : Decidable (a.Older b) :=
  inferInstanceAs (Decidable (_ ∨ _))

/-- Aged items come first, the oldest first; the others come by descending priority and then by
age. -/
def Precedes (now : Time) (agingSeconds : ℕ) (a b : WorkItemRecord) : Prop :=
  a.Aged now agingSeconds ∧ (¬ b.Aged now agingSeconds ∨ a.Older b) ∨
    ¬ a.Aged now agingSeconds ∧ ¬ b.Aged now agingSeconds ∧
      (b.priority < a.priority ∨ a.priority = b.priority ∧ a.Older b)

variable {now : Time} {agingSeconds : ℕ} {a b c : WorkItemRecord}

lemma not_older_self (a : WorkItemRecord) : ¬ a.Older a := by
  simp only [Older, Time, Uuid]
  omega

lemma Older.trans (hab : a.Older b) (hbc : b.Older c) : a.Older c := by
  simp only [Older, Time, Uuid] at *
  omega

lemma older_total (hne : a.workId ≠ b.workId) : a.Older b ∨ b.Older a := by
  simp only [Older, Time, Uuid] at *
  omega

lemma Older.aged (h : a.Older b) (hb : b.Aged now agingSeconds) : a.Aged now agingSeconds := by
  simp only [Older, Aged, Time, Uuid] at *
  omega

lemma Aged.later (h : a.Aged now agingSeconds) {now' : Time} {agingSeconds' : ℕ} (hnow : now ≤ now')
    (haging : agingSeconds' ≤ agingSeconds) : a.Aged now' agingSeconds' := by
  have hseconds : (seconds agingSeconds' : ℤ) ≤ seconds agingSeconds :=
    Int.ofNat_le.mpr (Nat.mul_le_mul_right _ haging)
  unfold Aged at *
  exact Int.le_trans hseconds (Int.le_trans h (Int.sub_le_sub_right hnow _))

lemma Older.congr (h : a.Older b) {a' b' : WorkItemRecord} (ha : a'.createdAt = a.createdAt)
    (ha' : a'.ordinal = a.ordinal) (haId : a'.workId = a.workId) (hb : b'.createdAt = b.createdAt)
    (hb' : b'.ordinal = b.ordinal) (hbId : b'.workId = b.workId) : a'.Older b' := by
  unfold Older
  rw [ha, ha', haId, hb, hb', hbId]
  exact h

/-- **The order is strict.** -/
theorem not_precedes_self (a : WorkItemRecord) : ¬ a.Precedes now agingSeconds a := by
  have hself := not_older_self a
  rintro (⟨haged, hfresh | hold⟩ | ⟨-, -, hlt | ⟨-, hold⟩⟩)
  · exact hfresh haged
  · exact hself hold
  · exact absurd hlt (Int.lt_irrefl _)
  · exact hself hold

/-- **The order is transitive.** -/
theorem Precedes.trans (hab : a.Precedes now agingSeconds b) (hbc : b.Precedes now agingSeconds c) :
    a.Precedes now agingSeconds c := by
  rcases hab with ⟨ha, hab⟩ | ⟨ha, hb, hab⟩
  · rcases hbc with ⟨hb, hbc⟩ | ⟨hb, hc, -⟩
    · have holder : a.Older b := hab.resolve_left (not_not_intro hb)
      exact .inl ⟨ha, hbc.imp_right holder.trans⟩
    · exact .inl ⟨ha, .inl hc⟩
  · rcases hbc with ⟨hb', -⟩ | ⟨-, hc, hbc⟩
    · exact absurd hb' hb
    · refine .inr ⟨ha, hc, ?_⟩
      rcases hab with hab | ⟨hab, holder⟩
      · rcases hbc with hbc | ⟨hbc, -⟩
        · exact .inl (by omega)
        · exact .inl (by omega)
      · rcases hbc with hbc | ⟨hbc, holder'⟩
        · exact .inl (by omega)
        · exact .inr ⟨hab.trans hbc, holder.trans holder'⟩

/-- **The order is total**: of two items with different ids one precedes the other. -/
theorem precedes_total (hne : a.workId ≠ b.workId) :
    a.Precedes now agingSeconds b ∨ b.Precedes now agingSeconds a := by
  have holder := older_total hne
  simp only [Precedes]
  by_cases ha : a.Aged now agingSeconds <;> by_cases hb : b.Aged now agingSeconds
  · simpa [ha, hb] using holder
  · simp [ha, hb]
  · simp [ha, hb]
  · simp only [ha, hb, false_and, not_false_eq_true, true_and, false_or]
    rcases Int.lt_trichotomy a.priority b.priority with hlt | heq | hgt
    · exact .inr (.inl hlt)
    · exact holder.imp (fun h => .inr ⟨heq, h⟩) fun h => .inr ⟨heq.symm, h⟩
    · exact .inl (.inl hgt)

lemma precedes_of_key_le (hne : a.workId ≠ b.workId)
    (h : Table.lexLe (workItemPriorityKey a now agingSeconds)
      (workItemPriorityKey b now agingSeconds) = true) : a.Precedes now agingSeconds b := by
  have haged : ∀ w : WorkItemRecord, workItemPriorityKey w now agingSeconds =
      if w.Aged now agingSeconds then [0, w.createdAt, (w.ordinal : ℤ), (w.workId : ℤ)]
      else [1, -w.priority, w.createdAt, (w.ordinal : ℤ), (w.workId : ℤ)] := fun _ => rfl
  rw [haged a, haged b] at h
  by_cases ha : a.Aged now agingSeconds <;> by_cases hb : b.Aged now agingSeconds
  · refine .inl ⟨ha, .inr ?_⟩
    simp only [ha, hb, if_true, Table.lexLe, Bool.or_eq_true, Bool.and_eq_true,
      decide_eq_true_eq] at h
    simp only [Older, Time, Uuid] at *
    omega
  · exact .inl ⟨ha, .inl hb⟩
  · simp [ha, hb, Table.lexLe] at h
  · refine .inr ⟨ha, hb, ?_⟩
    simp only [ha, hb, if_false, Table.lexLe, Bool.or_eq_true, Bool.and_eq_true,
      decide_eq_true_eq] at h
    simp only [Older, Time, Uuid] at *
    omega

end WorkItemRecord

/-! ### What a call selects -/

namespace OperationalStore

variable {s s' : OperationalStore} {request : LeaseRequest} {w : WorkItemRecord}

/-- The item is queued and available, its run is not asked to stop, and no cap excludes it. -/
def Eligible (s : OperationalStore) (request : LeaseRequest) (w : WorkItemRecord) : Prop :=
  w ∈ s.workItems ∧ w.state = .queued ∧ w.availableAt ≤ request.now ∧
    (∃ r ∈ s.runs, r.runId = w.runId ∧ r.cancellationRequestedAt = none) ∧
    request.admits s.activeRows w = true

instance decidableEligible (s : OperationalStore) (request : LeaseRequest) (w : WorkItemRecord) :
    Decidable (s.Eligible request w) := inferInstanceAs (Decidable (_ ∧ _))

lemma eligible_iff :
    s.Eligible request w ↔ w ∈ s.candidates request.now ∧ request.admits s.activeRows w = true := by
  simp [Eligible, candidates, and_assoc]

/-- **The selected item** may be leased and precedes every other item that may be; nothing is
selected only when the global cap is reached or nothing may be leased. -/
theorem selectCandidate_spec (request : LeaseRequest)
    (hkeyed : Table.Keyed WorkItemRecord.workId s.workItems) :
    match s.selectCandidate request with
    | some w => request.full s.activeRows = false ∧ s.Eligible request w ∧
        ∀ c, s.Eligible request c → c ≠ w →
          w.Precedes request.now request.priorityAgingSeconds c
    | none => request.full s.activeRows = true ∨ ∀ c, ¬ s.Eligible request c := by
  cases hselect : s.selectCandidate request with
  | none =>
    simp only [selectCandidate] at hselect
    split_ifs at hselect with hfull
    · exact .inl hfull
    · refine .inr fun c hc => ?_
      obtain ⟨hmem, hadmits⟩ := eligible_iff.mp hc
      have hnot := List.find?_eq_none.mp hselect c (by simpa using hmem)
      exact hnot hadmits
  | some w =>
    obtain ⟨hw, -, -, hfull, hadmits⟩ := selectCandidate_eq_some hselect
    simp only [selectCandidate, hfull] at hselect
    have hcandidate : w ∈ s.candidates request.now := by
      have := List.mem_of_find?_eq_some hselect
      simpa using this
    refine ⟨hfull, eligible_iff.mpr ⟨hcandidate, hadmits⟩, fun c hc hne => ?_⟩
    obtain ⟨hmem, hcadmits⟩ := eligible_iff.mp hc
    have hle := (Table.find?_orderBy hselect c hmem hcadmits).resolve_left hne
    refine WorkItemRecord.precedes_of_key_le (fun hsame => hne ?_) hle
    exact hkeyed.eq_of_key_eq hc.1 hw hsame.symm

/-- What a call for work answers: the least item that may be leased, now leased, with its lease; or
nothing, when the global cap is reached or nothing may be leased. Leases whose time has passed have
expired before. -/
def Selects (s : OperationalStore) (request : LeaseRequest) :
    Option (WorkItemRecord × LeaseRecord) → Prop
  | some (w, lease) => ∃ row, (s.sweep request.now none).Eligible request row ∧
      w = { row with state := .leased, updatedAt := request.now } ∧ lease.workId = row.workId ∧
      ∀ c, (s.sweep request.now none).Eligible request c → c ≠ row →
        row.Precedes request.now request.priorityAgingSeconds c
  | none => request.full (s.sweep request.now none).activeRows = true ∨
      ∀ c, ¬ (s.sweep request.now none).Eligible request c

/-- **What a call for work answers**, in every well-formed database. -/
theorem leaseNextWorkItem_selects (hs : s.WellFormed)
    {answer : Option (WorkItemRecord × LeaseRecord)}
    (h : s.leaseNextWorkItem request = .ok (answer, s')) : s.Selects request answer := by
  have hswept : (s.sweep request.now none).WellFormed := hs.updates (.sweep s _ _)
  have hspec := selectCandidate_spec (s := s.sweep request.now none) request
    hswept.works_keyed
  obtain ⟨-, hcases⟩ := leaseNextWorkItem_ok h
  cases hselect : (s.sweep request.now none).selectCandidate request with
  | none =>
    rw [hselect] at hspec
    rcases hcases with ⟨rfl, -⟩ | ⟨candidate, _, hsome, -⟩
    · exact hspec
    · rw [hselect] at hsome
      cases hsome
  | some row =>
    rw [hselect] at hspec
    obtain ⟨-, heligible, hleast⟩ := hspec
    rcases hcases with ⟨rfl, -⟩ | ⟨candidate, lease, hsome, hlease, hgrant, rfl, w, l, rfl, hw, hl⟩
    · -- an item that was selected is answered
      simp only [leaseNextWorkItem, hselect, bind_eq_ok, pure_eq_ok, Prod.mk.injEq,
        reduceCtorEq, false_and, and_false, exists_false] at h
    · obtain rfl := Option.some.inj (hselect.symm.trans hsome)
      refine ⟨row, heligible, ?_, ?_, hleast⟩
      · have hfound : (s.sweep request.now none).workItem? row.workId = some row :=
          hswept.works_keyed.lookup_of_mem heligible.1
        have hmarked : ((s.sweep request.now none).grant lease request.now).workItem? row.workId =
            some { row with state := .leased, updatedAt := request.now } := by
          have hid : lease.workId = row.workId := by rw [hlease]; rfl
          show OperationalStore.workItem? (OperationalStore.setWorkItems _ _ _) _ = _
          rw [workItem?_setWorkItems _ fun _ => by rfl]
          show ((s.sweep request.now none).workItem? row.workId).map _ = _
          rw [hfound, Option.map_some, if_pos hid.symm]
        exact Option.some.inj (hw.symm.trans hmarked)
      · have hfound : ((s.sweep request.now none).grant lease request.now).lease? lease.leaseId =
            some lease := by
          show Table.lookup LeaseRecord.leaseId _ ((s.sweep request.now none).leases ++ [lease]) = _
          rw [Table.lookup_append_singleton, if_pos rfl]
          have hnew : Table.lookup LeaseRecord.leaseId lease.leaseId
              (s.sweep request.now none).leases = none := hgrant.1
          rw [hnew]
          rfl
        obtain rfl := Option.some.inj (hl.symm.trans hfound)
        rw [hlease]
        rfl

end OperationalStore

/-! ### Waiting for work -/

open OperationalStore

namespace StoreOp

variable {β : Type} {s : OperationalStore}

/-- The request of a call that leases work, and the item it leases. -/
def takes : ∀ {β : Type}, StoreOp β → OperationalStore → Option (LeaseRequest × WorkItemRecord)
  | _, .leaseNextWorkItem request, s =>
    match s.leaseNextWorkItem request with
    | .ok (some (w, _), _) => some (request, w)
    | _ => none
  | _, _, _ => none

/-- Whenever work is asked for, the item `x` may be leased; times do not go back before `since`, the
aging time is at most the given one, and work that is enqueued is created after `x`. -/
def Waits (x : WorkItemRecord) (since : Time) (agingSeconds : ℕ) (clock : Time) :
    ∀ {β : Type}, StoreOp β → OperationalStore → Prop
  | _, .leaseNextWorkItem request, s => since ≤ request.now ∧
      request.priorityAgingSeconds ≤ agingSeconds ∧
      ∃ row, row.workId = x.workId ∧ (s.sweep request.now none).Eligible request row
  | _, .createWorkItem _ now, _ => x.createdAt < now.getD clock
  | _, _, _ => True

lemma takes_eq_some {op : StoreOp β} {request : LeaseRequest} {w : WorkItemRecord}
    (h : op.takes s = some (request, w)) (hs : s.WellFormed) :
    ∃ lease, s.Selects request (some (w, lease)) := by
  cases op with
  | leaseNextWorkItem r =>
    simp only [takes] at h
    split at h
    · rename_i w' lease after hanswer
      obtain ⟨rfl, rfl⟩ := Prod.mk.inj (Option.some.inj h)
      exact ⟨lease, leaseNextWorkItem_selects hs hanswer⟩
    · cases h
  | _ => cases h

lemma exec_workItem_origin (clock : Time) (op : StoreOp β) {w' : WorkItemRecord}
    (hw' : w' ∈ (op.exec clock s).2.workItems) :
    (∃ w ∈ s.workItems, w.frozen = w'.frozen) ∨
      ∀ x since agingSeconds, op.Waits x since agingSeconds clock s →
        x.createdAt < w'.createdAt := by
  cases op with
  | createWorkItem item now =>
    simp only [exec, commit] at hw'
    split at hw'
    · rename_i w after hcreate
      rcases createWorkItem_ok hcreate with rfl | ⟨-, -, -, -, -, hw, rfl⟩
      · exact .inl ⟨w', hw', rfl⟩
      · rcases List.mem_append.mp hw' with hold | hnew
        · exact .inl ⟨w', hold, rfl⟩
        · obtain rfl := List.mem_singleton.mp hnew
          refine .inr fun x _ _ hwaits => ?_
          rw [hw]
          exact hwaits
    · exact .inl ⟨w', hw', rfl⟩
  | updateWorkItem workId state availableAt now =>
    simp only [exec, commit] at hw'
    split at hw'
    · rename_i w after hupdate
      obtain ⟨-, rfl⟩ := updateWorkItem_ok hupdate
      exact .inl (Table.mem_of_map_eq (Updates.setWorkItems s _ fun _ => by rfl).workItems hw')
    · exact .inl ⟨w', hw', rfl⟩
  | _ => exact .inl (Table.mem_of_map_eq ((exec_effect clock _ s).workItems_of_not_enqueues id) hw')

end StoreOp

/-- A call of the store, at a time of its clock. -/
structure StoreCall where
  {β : Type}
  op : StoreOp β
  clock : Time

namespace OperationalStore

/-- Calls of the store, one after the other. -/
def calls : Machine OperationalStore StoreCall where
  step s call := (call.op.exec call.clock s).2

/-- The items leased by calls for work, in order. -/
def taken (s : OperationalStore) : List StoreCall → List Uuid
  | [] => []
  | call :: rest =>
    ((call.op.takes s).map fun t => t.2.workId).toList ++ taken (calls.step s call) rest

/-- Between the state in which an item starts to wait and a later one: no row is lost, and every
other item comes from the first state or was created after the waiting one. -/
structure Behind (start : OperationalStore) (x : WorkItemRecord) (s : OperationalStore) : Prop where
  wellFormed : s.WellFormed
  row : ∃ row ∈ s.workItems, row.frozen = x.frozen
  origin : ∀ w ∈ s.workItems, (∃ w₀ ∈ start.workItems, w₀.frozen = w.frozen) ∨
    x.createdAt < w.createdAt

variable {start s : OperationalStore} {x : WorkItemRecord} {since : Time} {agingSeconds : ℕ}

lemma Behind.step (h : Behind start x s) {call : StoreCall}
    (hwaits : call.op.Waits x since agingSeconds call.clock s) :
    Behind start x (calls.step s call) := by
  refine ⟨StoreOp.exec_wellFormed call.clock call.op h.wellFormed, ?_, ?_⟩
  · obtain ⟨row, hrow, hfrozen⟩ := h.row
    obtain ⟨row', hrow', hfrozen'⟩ := (StoreOp.exec_extends call.clock call.op s).workItem?
      (h.wellFormed.works_keyed.lookup_of_mem hrow)
    exact ⟨row', (Table.mem_of_lookup hrow').1, hfrozen'.trans hfrozen⟩
  · intro w hw
    rcases StoreOp.exec_workItem_origin call.clock call.op hw with ⟨v, hv, hfrozen⟩ | hnew
    · have hcreated : v.createdAt = w.createdAt := WellFormed.column_eq _ (fun _ => by rfl) hfrozen
      rcases h.origin v hv with ⟨w₀, hw₀, hsame⟩ | hlater
      · exact .inl ⟨w₀, hw₀, hsame.trans hfrozen⟩
      · exact .inr (hcreated ▸ hlater)
    · exact .inr (hnew x since agingSeconds hwaits)

/-- The item a call leases is the waiting one, or an aged item of the first state that is older. -/
def TakesOlder (start : OperationalStore) (x : WorkItemRecord) (s : OperationalStore)
    (call : StoreCall) : Prop :=
  ∀ request w, call.op.takes s = some (request, w) → w.workId = x.workId ∨
    w.Aged request.now request.priorityAgingSeconds ∧
      ∃ w₀ ∈ start.workItems, w₀.workId = w.workId ∧ w₀.createdAt = w.createdAt ∧ w₀.Older x

lemma Behind.same_columns (h : Behind start x s) {now : Time} {own : WorkItemRecord}
    (hown : own ∈ (s.sweep now none).workItems) (hid : own.workId = x.workId) :
    own.createdAt = x.createdAt ∧ own.ordinal = x.ordinal := by
  obtain ⟨before, hbefore, hfrozen⟩ := Table.mem_of_map_eq (Updates.sweep s now none).workItems hown
  obtain ⟨kept, hkept, hkeptFrozen⟩ := h.row
  have hbeforeId : before.workId = own.workId := WellFormed.column_eq _ (fun _ => by rfl) hfrozen
  have hkeptId : kept.workId = x.workId := WellFormed.column_eq _ (fun _ => by rfl) hkeptFrozen
  obtain rfl : before = kept := h.wellFormed.works_keyed.eq_of_key_eq hbefore hkept
    (hbeforeId.trans (hid.trans hkeptId.symm))
  have hownFrozen : own.frozen = x.frozen := hfrozen.symm.trans hkeptFrozen
  exact ⟨WellFormed.column_eq _ (fun _ => by rfl) hownFrozen,
    WellFormed.column_eq _ (fun _ => by rfl) hownFrozen⟩

lemma Behind.older_origin (h : Behind start x s) {now : Time} {row : WorkItemRecord}
    (hrow : row ∈ (s.sweep now none).workItems) (holder : row.Older x) :
    ∃ w₀ ∈ start.workItems, w₀.workId = row.workId ∧ w₀.createdAt = row.createdAt ∧ w₀.Older x := by
  obtain ⟨old, hold, holdFrozen⟩ := Table.mem_of_map_eq (Updates.sweep s now none).workItems hrow
  have holdCreated : old.createdAt = row.createdAt :=
    WellFormed.column_eq _ (fun _ => by rfl) holdFrozen
  rcases h.origin old hold with ⟨w₀, hw₀, hsame⟩ | hlater
  · have hfrozen : w₀.frozen = row.frozen := hsame.trans holdFrozen
    have hcreated : w₀.createdAt = row.createdAt := WellFormed.column_eq _ (fun _ => by rfl) hfrozen
    have hordinal : w₀.ordinal = row.ordinal := WellFormed.column_eq _ (fun _ => by rfl) hfrozen
    have hid : w₀.workId = row.workId := WellFormed.column_eq _ (fun _ => by rfl) hfrozen
    exact ⟨w₀, hw₀, hid, hcreated, holder.congr hcreated hordinal hid rfl rfl rfl⟩
  · exfalso
    simp only [WorkItemRecord.Older, Time, Uuid] at *
    omega

lemma Behind.takesOlder (h : Behind start x s) (haged : x.Aged since agingSeconds)
    {call : StoreCall} (hwaits : call.op.Waits x since agingSeconds call.clock s) :
    TakesOlder start x s call := by
  intro request w htakes
  obtain ⟨lease, row, heligible, rfl, -, hleast⟩ := StoreOp.takes_eq_some htakes h.wellFormed
  obtain ⟨op, clock⟩ := call
  cases op with
  | leaseNextWorkItem r =>
    obtain rfl : r = request := by
      simp only [StoreOp.takes] at htakes
      split at htakes
      · exact (Prod.mk.inj (Option.some.inj htakes)).1
      · cases htakes
    obtain ⟨hsince, haging, own, hid, hown⟩ := hwaits
    by_cases hsame : own = row
    · exact .inl (hsame ▸ hid)
    obtain ⟨hcreated, hordinal⟩ := h.same_columns hown.1 hid
    have hownAged : own.Aged r.now r.priorityAgingSeconds := by
      unfold WorkItemRecord.Aged
      rw [hcreated]
      exact haged.later hsince haging
    have holder : row.Aged r.now r.priorityAgingSeconds ∧ row.Older own := by
      rcases hleast own hown hsame with ⟨hrow, hfresh | hold⟩ | ⟨-, hfresh, -⟩
      · exact absurd hownAged hfresh
      · exact ⟨hrow, hold⟩
      · exact absurd hownAged hfresh
    have holderX : row.Older x :=
      holder.2.congr rfl rfl rfl hcreated.symm hordinal.symm hid.symm
    have horigin := h.older_origin heligible.1 holderX
    exact .inr ⟨holder.1, horigin⟩
  | _ => cases htakes

/-- The items leased along a run are the waiting one and older items of the first state. -/
lemma Behind.taken_older (h : Behind start x s) (haged : x.Aged since agingSeconds)
    {events : List StoreCall}
    (hwaits : calls.Along (fun s call => call.op.Waits x since agingSeconds call.clock s) s events)
    {id : Uuid} (hid : id ∈ taken s events) :
    id = x.workId ∨ ∃ w₀ ∈ start.workItems, w₀.workId = id ∧ w₀.Older x := by
  induction events generalizing s with
  | nil => exact absurd hid List.not_mem_nil
  | cons call rest ih =>
    rcases List.mem_append.mp hid with hnow | hlater
    · cases htakes : call.op.takes s with
      | none => simp [htakes] at hnow
      | some t =>
        obtain ⟨request, w⟩ := t
        obtain rfl : w.workId = id := by simpa [htakes, eq_comm] using hnow
        rcases h.takesOlder haged hwaits.1 request w htakes with hsame | ⟨-, w₀, hw₀, hid₀, -, hold⟩
        · exact .inl hsame
        · exact .inr ⟨w₀, hw₀, hid₀, hold⟩
    · exact ih (h.step hwaits.1) hwaits.2 hlater

end OperationalStore

/-- **Selection is fair.** A call for work leases the least item that may be leased, and answers
nothing only when nothing may be leased or the global cap is reached. While an aged item `x` may be
leased at every call and only later work is enqueued, every other item that is leased is an aged
item of the first state older than `x`, so only finitely many are. -/
theorem lease_next_fair {s : OperationalStore} (hs : s.WellFormed) :
    (∀ request answer s', s.leaseNextWorkItem request = .ok (answer, s') →
        s.Selects request answer) ∧
      ∀ x ∈ s.workItems, ∀ since agingSeconds, x.Aged since agingSeconds → ∀ events,
        calls.Along (fun s call => call.op.Waits x since agingSeconds call.clock s) s events →
          calls.Along (TakesOlder s x) s events ∧
          ((taken s events).filter (· ≠ x.workId)).dedup.length ≤
            (s.workItems.filter fun w => w.Older x).length := by
  refine ⟨fun request answer s' h => leaseNextWorkItem_selects hs h, ?_⟩
  intro x hx since agingSeconds haged events hwaits
  have hbehind : Behind s x s := ⟨hs, ⟨x, hx, rfl⟩, fun w hw => .inl ⟨w, hw, rfl⟩⟩
  refine ⟨Machine.along_of_invariant (fun t call h hcall => h.step hcall)
    (fun t call h hcall => h.takesOlder haged hcall) hbehind hwaits, ?_⟩
  have hsub : ((taken s events).filter (· ≠ x.workId)).dedup ⊆
      (s.workItems.filter fun w => w.Older x).map WorkItemRecord.workId := by
    intro id hid
    obtain ⟨hmem, hne⟩ := List.mem_filter.mp (List.mem_dedup.mp hid)
    rcases hbehind.taken_older haged hwaits hmem with hsame | ⟨w₀, hw₀, rfl, hold⟩
    · simp [hsame] at hne
    · exact List.mem_map_of_mem (List.mem_filter.mpr ⟨hw₀, by simpa using hold⟩)
  have hle := (List.subperm_of_subset (List.nodup_dedup _) hsub).length_le
  rwa [List.length_map] at hle

lemma OperationalStore.wellFormed_calls {s : OperationalStore} (hs : s.WellFormed)
    (events : List StoreCall) : (calls.run s events).WellFormed := by
  refine calls.run_preserves_of_forall (C := fun _ => True) (fun t call ht _ => ?_) hs
    fun _ _ => trivial
  exact StoreOp.exec_wellFormed call.clock call.op ht

/-- A queue with one item. -/
def queueOf (item : WorkItemIdentity) : OperationalStore :=
  calls.run .empty
    [⟨.createRun item.runId "runs/spec.json" .ready none, 0⟩,
      ⟨.putPlan item.planId item.runId "runs/plan.json" .ready none, 0⟩,
      ⟨.putPlannedTrial item.trialId item.planId item.runId item.ordinal .planned none, 0⟩,
      ⟨.createWorkItem item none, 0⟩]

/-- Selection from a queue with one item. -/
theorem lease_next_fair_sampleItem :
    let s := queueOf (sampleItem .default)
    s.workItems.length = 1 ∧
      (∀ request answer s', s.leaseNextWorkItem request = .ok (answer, s') →
        s.Selects request answer) ∧
      ∀ x ∈ s.workItems, ∀ since agingSeconds, x.Aged since agingSeconds → ∀ events,
        calls.Along (fun s call => call.op.Waits x since agingSeconds call.clock s) s events →
          calls.Along (TakesOlder s x) s events ∧
          ((taken s events).filter (· ≠ x.workId)).dedup.length ≤
            (s.workItems.filter fun w => w.Older x).length :=
  ⟨by decide +kernel, lease_next_fair (wellFormed_calls .empty _)⟩

/-! ### Idle queues -/

variable {policy : ExecutionPolicy} {s s₁ : OperationalStore} {owner : String} {now : Time}

/-- **An idle queue stays idle** until the time that `next_available_at` reports or the end of an
active lease: whoever asks for work before, under the same policy and however often, gets nothing
and leaves the database as it is. -/
theorem idle_until_due (hs : s.WellFormed)
    (h : s.leaseNextWorkItem (policy.leaseRequest owner now) = .ok (none, s₁)) :
    ∀ owner' now', isBlank owner' = false →
      (∀ due ∈ s₁.nextAvailableAt now, now' < due) →
      (∀ l ∈ s₁.leases, l.state = .active → now' < l.expiresAt) →
      s₁.leaseNextWorkItem (policy.leaseRequest owner' now') = .ok (none, s₁) := by
  intro owner' now' howner hdue hexpires
  have hs₁ : s₁ = s.sweep now none := by
    rcases (leaseNextWorkItem_ok h).2 with ⟨-, heq⟩ | ⟨_, _, _, _, _, _, _, _, hsome, -⟩
    · exact heq
    · cases hsome
  have hidle : (policy.leaseRequest owner now).full s₁.activeRows = true ∨
      ∀ c, ¬ s₁.Eligible (policy.leaseRequest owner now) c :=
    hs₁ ▸ leaseNextWorkItem_selects hs h
  have hkeyed : Table.Keyed WorkItemRecord.workId s₁.workItems := by
    rw [hs₁]
    exact (hs.updates (.sweep s _ _)).works_keyed
  -- no active lease has expired, so nothing is swept
  have hsweep : s₁.sweep now' none = s₁ := by
    have hnone : s₁.expiredLeases now' none = [] := by
      refine List.filter_eq_nil_iff.mpr fun l hl hexpired => ?_
      obtain ⟨hactive, hle, -⟩ := of_decide_eq_true hexpired
      exact absurd hle (Int.not_le.mpr (hexpires l hl hactive))
    rw [sweep, hnone, List.foldl_nil]
  have hselect : s₁.selectCandidate (policy.leaseRequest owner' now') = none := by
    have hspec := selectCandidate_spec (policy.leaseRequest owner' now') hkeyed
    cases hselect : s₁.selectCandidate (policy.leaseRequest owner' now') with
    | none => rfl
    | some w =>
      exfalso
      rw [hselect] at hspec
      obtain ⟨hroom, ⟨hmem, hqueued, havailable, hrun, hadmits⟩, -⟩ := hspec
      rcases hidle with hfull | hnone
      · exact Bool.false_ne_true (hroom.symm.trans hfull)
      · -- the selected item was not available before, so it is not available before the due time
        have hlater : now < w.availableAt := by
          by_contra hbefore
          exact hnone w ⟨hmem, hqueued, Int.not_lt.mp hbefore, hrun, hadmits⟩
        have hmem' : w.availableAt ∈ ((s₁.workItems.filter fun w => w.state = .queued ∧
            now < w.availableAt).map WorkItemRecord.availableAt) :=
          List.mem_map_of_mem (List.mem_filter.mpr ⟨hmem, decide_eq_true ⟨hqueued, hlater⟩⟩)
        obtain ⟨due, hmin⟩ := Option.ne_none_iff_exists'.mp
          (fun hnone => List.ne_nil_of_mem hmem' (List.min?_eq_none_iff.mp hnone))
        have hle := (List.min?_eq_some_iff.mp hmin).2 _ hmem'
        exact absurd (Int.le_trans hle havailable) (Int.not_le.mpr (hdue due hmin))
  have hcheck : (policy.leaseRequest owner' now').check = .ok () := by
    simp only [leaseNextWorkItem, bind_eq_ok] at h
    obtain ⟨_, hfirst, -⟩ := h
    simp only [LeaseRequest.check, requiredText, bind_eq_ok] at hfirst ⊢
    obtain ⟨-, -, hlimits⟩ := hfirst
    exact ⟨owner', if_neg (Bool.eq_false_iff.mp howner), hlimits⟩
  have hswept : s₁.sweep (policy.leaseRequest owner' now').now none = s₁ := hsweep
  rw [leaseNextWorkItem, hcheck, hswept]
  simp only [hselect]
  rfl

/-- An item that is available at ten, and another call at nine. -/
theorem idle_until_due_laterItem :
    let s := queueOf { sampleItem .default with availableAt := 10 }
    s.leaseNextWorkItem ((ExecutionPolicy.ofConcurrency 1 (by decide)).leaseRequest "second" 9) =
      .ok (none, s) := by
  intro s
  have hfirst : s.leaseNextWorkItem ((ExecutionPolicy.ofConcurrency 1 (by decide)).leaseRequest
      "first" 0) = .ok (none, s) := by rfl
  exact idle_until_due (wellFormed_calls .empty _) hfirst "second" 9 (by decide +kernel)
    (by decide +kernel) (by decide +kernel)

end AecBench.Execution
