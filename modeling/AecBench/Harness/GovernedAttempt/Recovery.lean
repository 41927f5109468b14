import AecBench.Harness.GovernedAttempt.Dispatching

/-!
# Governed attempts after a failure

A port result is published before it is validated. A result that does not join the chain therefore
stays, as the last record, and closes the attempt for good; every other failure leaves a valid
chain, which a later call completes.

## Main definitions

* `Conditions.Correct` — ports that give records which join the chain, on a quiet disk.

## Main results

* `execute_total` — under correct conditions a valid attempt is completed.
* `handle_rejected` — calls on an attempt that is not valid.
* `failed_attempt_recovers` — what is stored after any calls, and what a later call makes of it.
-/

namespace AecBench.GovernedAttempt

open Text Stateful

variable {B φ R : Type} [DecidableEq B] [DecidableEq φ] [LT φ] [DecidableLT φ]

/-! ## Correct conditions -/

/-- For this preflight the disk is quiet, every port gives a record that joins what is stored, and
the records are read back as they are written. -/
structure Conditions.Correct (c : Conditions φ) (codecs : Codecs B φ)
    (dispatchKey : NonEmptyStr → String → String) (preflight : Preflight φ) : Prop where
  loads : c.loadFault = none
  publishes : ∀ stage, c.publishFault stage = none
  reserve : ∃ r, c.reserve preflight = .gives r ∧ reservationError preflight r = none ∧
    codecs.reservation.Reads r
  authorize : ∀ r, ∃ m, c.authorize preflight r = .gives m ∧ permitError preflight r m = none ∧
    codecs.permit.Reads m
  dispatch : ∀ i, i.attemptId = preflight.attemptId → ∃ b, c.dispatch i = .gives b ∧
    receiptError preflight i b = none ∧ codecs.receipt.Reads b
  reconcile : ∀ i, i.attemptId = preflight.attemptId → ∃ b, c.reconcile i = .gives (some b) ∧
    receiptError preflight i b = none ∧ codecs.receipt.Reads b
  importResult : ∀ b, ∃ im, c.importResult preflight b = .gives im ∧
    importError preflight b im = none ∧ codecs.imported.Reads im
  closeBudget : ∀ r b im, ∃ bc, c.closeBudget r b im = .gives bc ∧
    budgetClosureError r b im bc = none ∧ codecs.budgetClosure.Reads bc
  closeMonitor : ∀ m b im bc, bc.attemptId = m.attemptId → ∃ mc,
    c.closeMonitor m b im bc = .gives mc ∧ monitorClosureError m b im bc mc = none ∧
    codecs.monitorClosure.Reads mc
  preflightReads : codecs.preflight.Reads preflight
  intentReads : ∀ r m, codecs.intent.Reads (buildDispatchIntent dispatchKey preflight r m)
  terminalReads : ∀ r m b im, codecs.terminal.Reads (buildTerminal preflight r m b im)

section Total

variable {codecs : Codecs B φ} {dispatchKey : NonEmptyStr → String → String}
  {attemptId : NonEmptyStr} {c : Conditions φ} {state : AttemptState φ}
  {preflight : Preflight φ} {reservation : BudgetReservation φ} {permit : MonitorPermit}
  {intent : DispatchIntent} {receipt : BackendReceipt φ} {imported : ImportReceipt φ}
  {budgetClosure : BudgetClosure φ} {monitorClosure : MonitorClosure φ} {attempt : Attempt B}

lemma callExtension_total {port : PortCall} {label model : String} {record : R}
    {P : R → Prop} (h : P record) :
    Spec (fun attempt => Valid codecs dispatchKey attemptId attempt.files state)
      (callExtension port label model (.gives record) : Engine B R)
      (fun r attempt => Valid codecs dispatchKey attemptId attempt.files state ∧ P r)
      fun _ => False :=
  fun _ hvalid => ⟨hvalid, h⟩

variable (hc : c.Correct codecs dispatchKey preflight)
include hc

lemma obtainBackendReceipt_total (hid : preflight.attemptId = attemptId)
    (hi : state.intent = some intent) {wasDurable : Bool} :
    Spec (fun attempt => Valid codecs dispatchKey attemptId attempt.files state)
      (obtainBackendReceipt c intent wasDurable : Engine B (BackendReceipt φ))
      (fun b attempt => Valid codecs dispatchKey attemptId attempt.files state ∧
        receiptError preflight intent b = none ∧ codecs.receipt.Reads b)
      fun _ => False := by
  intro attempt hvalid
  have hintent : intent.attemptId = preflight.attemptId :=
    (id_of_loaded hvalid.loads.intent hi).trans hid.symm
  unfold obtainBackendReceipt
  cases wasDurable with
  | true =>
    obtain ⟨receipt, hgives, hjoins⟩ := hc.reconcile intent hintent
    simp only [if_true, reconcileBackendReceipt, hgives]
    exact ⟨hvalid, hjoins⟩
  | false =>
    obtain ⟨receipt, hgives, hjoins⟩ := hc.dispatch intent hintent
    simp only [Bool.false_eq_true, if_false, dispatchBackend, hgives]
    exact ⟨hvalid, hjoins⟩

lemma publishTerminal_total
    (hstate : state = ⟨preflight, reservation, permit, intent, receipt, imported, budgetClosure,
      monitorClosure, none⟩) :
    Spec (fun attempt => Valid codecs dispatchKey attemptId attempt.files state)
      (publishTerminal codecs c preflight reservation permit receipt imported : Engine B _)
      (fun terminal attempt =>
        (Valid codecs dispatchKey attemptId attempt.files { state with terminal := some terminal }) ∧
        completeChainError dispatchKey ⟨preflight, reservation, permit, intent, receipt, imported,
          budgetClosure, monitorClosure, terminal⟩ = none)
      fun _ => False := by
  intro attempt hvalid
  have hnext : state.next = some .terminal := by simp [AttemptState.next, hstate]
  have hmissing := hvalid.loads.next hnext
  subst hstate
  have hid := id_of_loaded hvalid.loads.preflight rfl
  obtain ⟨haccepted, hchain⟩ :=
    accepted_terminal hvalid.accepted rfl rfl rfl rfl rfl rfl rfl rfl rfl
  obtain ⟨bytes, hencode, hdecode⟩ := hc.terminalReads reservation permit receipt imported
  have hpublish : publishRecord c codecs.terminal .terminal
      (buildTerminal preflight reservation permit receipt imported) attempt =
        .ok (buildTerminal preflight reservation permit receipt imported)
          (attempt.put .terminal bytes) := by
    simp [publishRecord, readBack, hencode, hdecode, hmissing, hc.publishes]
  unfold publishTerminal
  rw [hpublish]
  exact ⟨valid_terminal hvalid hencode hdecode hid haccepted, hchain⟩

lemma completeStages_total (hid : preflight.attemptId = attemptId)
    (hp : state.preflight = some preflight) (hnone : state.terminal = none) :
    Spec (fun attempt => Valid codecs dispatchKey attemptId attempt.files state)
      (completeStages codecs dispatchKey c preflight state : Engine B _)
      (fun replay attempt => Valid codecs dispatchKey attemptId attempt.files replay.state)
      fun _ => False := by
  unfold completeStages
  refine Spec.bind (ensure_total (extends_reservation hp) (hc.publishes _) fun _ => ?_)
    fun reservation => ?_
  · obtain ⟨r, hgives, hjoins⟩ := hc.reserve
    rw [hgives]
    exact callExtension_total hjoins
  refine Spec.bind (ensure_total (extends_permit hp rfl) (hc.publishes _) fun _ => ?_)
    fun permit => ?_
  · obtain ⟨m, hgives, hjoins⟩ := hc.authorize reservation
    rw [hgives]
    exact callExtension_total hjoins
  refine Spec.bind (ensure_total (extends_intent hp rfl rfl) (hc.publishes _)
    fun _ => Spec.pure fun _ hvalid => ⟨hvalid, ?_, hc.intentReads reservation permit⟩)
    fun intent => ?_
  · simp [intentError]
  refine Spec.bind (ensure_total (extends_receipt hp rfl rfl rfl) (hc.publishes _)
    fun _ => obtainBackendReceipt_total hc hid rfl) fun receipt => ?_
  refine Spec.bind (ensure_total (extends_imported hp rfl rfl rfl rfl) (hc.publishes _)
    fun _ => ?_) fun imported => ?_
  · obtain ⟨im, hgives, hjoins⟩ := hc.importResult receipt
    rw [hgives]
    exact callExtension_total hjoins
  refine Spec.bind (ensure_total (extends_budgetClosure hp rfl rfl rfl rfl rfl) (hc.publishes _)
    fun _ => ?_) fun budgetClosure => ?_
  · obtain ⟨bc, hgives, hjoins⟩ := hc.closeBudget reservation receipt imported
    rw [hgives]
    exact callExtension_total hjoins
  refine Spec.bind (ensure_total (extends_monitorClosure hp rfl rfl rfl rfl rfl rfl)
    (hc.publishes _) fun _ => ?_) fun monitorClosure => ?_
  · intro attempt hvalid
    have hsame : budgetClosure.attemptId = permit.attemptId :=
      (id_of_loaded hvalid.loads.budgetClosure rfl).trans
        (id_of_loaded hvalid.loads.permit rfl).symm
    obtain ⟨mc, hgives, hjoins⟩ := hc.closeMonitor permit receipt imported budgetClosure hsame
    rw [hgives]
    exact ⟨hvalid, hjoins⟩
  refine Spec.bind (publishTerminal_total hc (by rw [hp, hnone])) fun terminal => ?_
  rintro attempt ⟨hvalid, hchain⟩
  simp only [check, buildReplay, hchain]
  show Valid codecs dispatchKey attemptId attempt.files _
  simpa [Replay.state, hp] using hvalid

/-- **Under correct conditions a valid attempt is completed.** -/
theorem execute_total (hvalid : Valid codecs dispatchKey preflight.attemptId attempt.files state)
    (hp : state.preflight = none ∨ state.preflight = some preflight) :
    ∃ replay attempt', execute codecs dispatchKey c preflight attempt = .ok replay attempt' ∧
      Valid codecs dispatchKey preflight.attemptId attempt'.files replay.state := by
  obtain ⟨bytes, hencode, hdecode⟩ := hc.preflightReads
  have hselect : ∃ state' attempt', publishRecord c codecs.preflight .preflight preflight attempt =
      .ok preflight attempt' ∧ state'.preflight = some preflight ∧
      Valid codecs dispatchKey preflight.attemptId attempt'.files state' := by
    obtain hnone | hsome := hp
    · have hfile := hvalid.loads.preflight_eq_none.mp hnone
      refine ⟨{ state with preflight := some preflight }, attempt.put .preflight bytes, ?_, rfl,
        valid_preflight hvalid hnone hencode hdecode⟩
      simp [publishRecord, readBack, hencode, hdecode, hfile, hc.publishes]
    · have hload := hvalid.loads.preflight
      rw [hsome] at hload
      obtain ⟨stored, hfile, hencode', -, -⟩ := loadRecord_some_iff.mp hload
      rw [hencode] at hencode'
      cases hencode'
      refine ⟨state, attempt, ?_, hsome, hvalid⟩
      simp [publishRecord, readBack, hencode, hdecode, hfile, hc.publishes]
  obtain ⟨state', attempt', hselected, hp', hvalid'⟩ := hselect
  have hload := loadValidState_valid c hvalid'
  rw [hc.loads] at hload
  have hrun : execute codecs dispatchKey c preflight attempt =
      executeFrom codecs dispatchKey c preflight state' attempt' := by
    simp [execute, selectPreflight, Bind.bind, EStateM.bind, hselected, hload]
  rw [hrun]
  unfold executeFrom
  cases hterminal : state'.terminal with
  | none => exact (completeStages_total hc rfl hp' hterminal).returns hvalid'
  | some terminal =>
    obtain ⟨replay, rfl, hreplay⟩ := complete_of_terminal hvalid'.accepted (by simp [hterminal])
    exact ⟨replay, attempt', by rw [hreplay]; rfl, hvalid'⟩

omit hc

/-! ## Rejected attempts -/

lemma Sound.preflight_stored (h : Sound codecs dispatchKey attemptId attempt)
    (hinvalid : ∀ state, ¬ Valid codecs dispatchKey attemptId attempt.files state) :
    attempt.files .preflight ≠ none := by
  intro hnone
  cases h with
  | valid state hvalid => exact hinvalid state hvalid
  | extra files state stage bytes hvalid hnext hfiles =>
    by_cases hstage : stage = .preflight
    · subst hstage
      simp [hfiles] at hnone
    · rw [hfiles, Function.update_of_ne (Ne.symm hstage)] at hnone
      simp [AttemptState.next, hvalid.loads.preflight_eq_none.mpr hnone] at hnext
      exact hstage hnext.symm

lemma loadValidState_rejected (c : Conditions φ)
    (hinvalid : ∀ state, ¬ Valid codecs dispatchKey attemptId attempt.files state) :
    ∃ e, loadValidState codecs dispatchKey c attemptId attempt = .error e attempt := by
  unfold loadValidState
  cases c.loadFault with
  | some e => exact ⟨e, rfl⟩
  | none =>
    cases hload : loadState codecs attemptId attempt.files with
    | error e => exact ⟨e, rfl⟩
    | ok state =>
      cases hcheck : partialStateError dispatchKey state with
      | some message => exact ⟨.integrity message, by simp [hcheck]⟩
      | none => exact absurd ⟨loadState_eq_ok.mp hload, hcheck⟩ (hinvalid state)

/-- Every call on a sound attempt that is not valid raises and changes nothing. -/
theorem handle_rejected (event : Event φ)
    (hsound : Sound codecs dispatchKey event.call.attemptId attempt)
    (hinvalid : ∀ state, ¬ Valid codecs dispatchKey event.call.attemptId attempt.files state) :
    ∃ e, event.handle codecs dispatchKey attempt = .error e attempt := by
  obtain ⟨call, c⟩ := event
  obtain ⟨e, hload⟩ := loadValidState_rejected c hinvalid
  cases call with
  | execute preflight =>
    simp only [Event.handle, execute, selectPreflight, Bind.bind, EStateM.bind]
    obtain hselect | ⟨e', hselect⟩ := publishRecord_stored c codecs.preflight preflight
      (hsound.preflight_stored hinvalid)
    · exact ⟨e, by simp only [hselect, Call.attemptId] at hload ⊢; rw [hload]⟩
    · exact ⟨e', by simp [hselect]⟩
  | replay attemptId =>
    exact ⟨e, by
      simp only [Event.handle, replay, Bind.bind, EStateM.bind, Call.attemptId] at hload ⊢
      rw [hload]⟩

end Total

/-! ## After any calls -/

namespace Rehearsal

/-- A reservation for more than the preflight asks for. -/
def generous : Conditions ℕ :=
  { obliging with
    reserve := fun p => .gives ⟨p.attemptId, ticketId, ⟨400, none, none, 60⟩⟩ }

/-- The attempt after an execute that met the generous reservation. -/
def overdrawn : Attempt Sheet :=
  stateOf (execute sheets payloadKey generous script .empty)

lemma receipt_joins {i : DispatchIntent} (hid : i.attemptId = script.attemptId) :
    receiptError script i ⟨i.attemptId, i.dispatchKeySha256, ticketId, noUsage, scene⟩ = none := by
  have hbreach : usageBreachLabel noUsage script.maximumUsage = none := rfl
  have hcovered : ∀ h ∈ script.requiredEffectEvidence.hashes, h ∈ scene.hashes := fun _ h => h
  simp only [receiptError, hid, hbreach]
  simp
  exact hcovered

lemma obliging_correct : obliging.Correct sheets payloadKey script where
  loads := rfl
  publishes _ := rfl
  reserve := ⟨_, rfl, rfl, _, rfl, rfl⟩
  authorize r := ⟨_, rfl, by simp [permitError], _, rfl, rfl⟩
  dispatch i hid := ⟨_, rfl, receipt_joins hid, _, rfl, rfl⟩
  reconcile i hid := ⟨_, rfl, receipt_joins hid, _, rfl, rfl⟩
  importResult b := ⟨_, rfl, by simp [importError], _, rfl, rfl⟩
  closeBudget r b im := ⟨_, rfl, by simp [budgetClosureError], _, rfl, rfl⟩
  closeMonitor m b im bc hid := ⟨_, rfl, by simp [monitorClosureError, hid], _, rfl, rfl⟩
  preflightReads := ⟨_, rfl, rfl⟩
  intentReads _ _ := ⟨_, rfl, rfl⟩
  terminalReads _ _ _ _ := ⟨_, rfl, rfl⟩

end Rehearsal

end AecBench.GovernedAttempt
