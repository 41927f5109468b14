import AecBench.Harness.ProviderBroker.Calls
import Mathlib.Algebra.Order.BigOperators.Group.List

/-!
# The broker accounts for every effect

A client call that was started is in the receipt of the session, unless an exception leaves the
broker. This happens when the fallback for an unknown effect fails itself, because the request has no
encoding or the clock went back; when a temperature is too large for a float; and when the clock went
back over the whole session.

## Main definitions

* `Broker.Accounted` — every started call is recorded, in order.
* `Accountable` — a turn that no exception leaves.

## Main results

* `serve_accounted_iff` — one turn.
* `effects_accounted_iff` — a session accounts for every effect exactly if its turns are accountable.
-/

namespace AecBench.ProviderBroker

open Text Wire

variable {p : Provider} {policy : Policy}

/-- Every started call is recorded, once and in order: by the session while it serves, and by a valid
receipt when it is closed. -/
def Broker.Accounted (p : Provider) (broker : Broker) : Prop :=
  match broker.progress with
  | .serving =>
    broker.invocations.map (·.trace p) = broker.session.calls.map (·.trace)
  | .closed receipt =>
    receiptError receipt = none ∧
      broker.invocations.map (·.trace p) =
        receipt.calls.map (·.trace) ++ receipt.effectUnknownCalls.map (·.trace) ∧
      receipt.calls.map (·.callIndex) ++ receipt.effectUnknownCalls.map (·.callIndex) =
        List.range' 1 broker.invocations.length
  | .escaped => False

/-- The records of a session that serves. -/
structure Session.Balanced (session : Session) : Prop where
  unfailed : session.terminalFailure = none
  known : session.effectUnknownCalls = []
  indices : session.calls.map (·.callIndex) = List.range' 1 session.calls.length

/-! ## Closing -/

/-- The records of a session when it is closed. -/
structure Session.Closable (session : Session) : Prop where
  indices : session.calls.map (·.callIndex) = List.range' 1 session.calls.length
  unknown : session.effectUnknownCalls = [] ∨
    ∃ call, session.effectUnknownCalls = [call] ∧ call.callIndex = session.calls.length + 1 ∧
      session.terminalFailure ≠ none
  reason : ∀ reason ∈ session.terminalFailure, ¬ Blank reason

variable {session : Session}

lemma Session.Balanced.closable (h : session.Balanced) : session.Closable where
  indices := h.indices
  unknown := .inl h.known
  reason := by simp [h.unfailed]

lemma receiptOf_valid (policy : Policy) (h : session.Closable) (finishedAt : ℚ) :
    receiptError (receiptOf policy session finishedAt) = none ↔
      session.startedAt ≤ finishedAt := by
  have hcost : 0 ≤ (session.calls.map (·.costUsd)).sum := by
    refine List.sum_nonneg fun x hx => ?_
    obtain ⟨call, -, rfl⟩ := List.mem_map.mp hx
    exact call.cost_nonneg
  have hreason : ¬ ∃ reason ∈ session.terminalFailure, Blank reason := by
    rintro ⟨reason, hreason, hblank⟩
    exact h.reason reason hreason hblank
  have hfield : fieldError (receiptOf policy session finishedAt) = none := by
    have hlength : ¬ 1 < session.effectUnknownCalls.length := by
      obtain hnone | ⟨call, hone, -⟩ := h.unknown
      · simp [hnone]
      · simp [hone]
    unfold fieldError
    split_ifs with h₁ h₂ h₃
    · exact absurd h₁ hlength
    · exact absurd h₂ hcost.not_gt
    · exact absurd h₃ hreason
    · rfl
  have haggregates : aggregatesError (receiptOf policy session finishedAt) = none := by
    simp [aggregatesError, receiptOf]
  have hunknown : session.effectUnknownCalls.map (·.callIndex) =
      List.range' (session.calls.length + 1) session.effectUnknownCalls.length := by
    obtain hnone | ⟨call, hone, hindex, -⟩ := h.unknown
    · simp [hnone]
    · simp [hone, hindex]
  have hstatus : statusError (receiptOf policy session finishedAt) = none := by
    obtain hnone | ⟨call, hone, -, hfailed⟩ := h.unknown
    · cases hfailure : session.terminalFailure with
      | none | some reason => simp [statusError, receiptOf, hnone, hfailure]
    · simp [statusError, receiptOf, hone, hfailed]
  have htime : timeAndIndicesError (receiptOf policy session finishedAt) =
      if finishedAt < session.startedAt then some "provider broker cannot finish before it starts"
      else none := by
    simp [timeAndIndicesError, receiptOf, h.indices, hunknown]
  rw [receiptError, hfield, htime, haggregates, hstatus]
  by_cases hclock : finishedAt < session.startedAt
  · simp [hclock, not_le.mpr hclock]
  · simp [hclock, not_lt.mp hclock]

variable {admitted : AdmittedCall} {turn : Turn}

/-! ## Turns -/

/-- The turn handles a call. -/
structure Handles (policy : Policy) (turn : Turn) (fields : Object) : Prop where
  inTime : brokerTerminalReason policy turn = none
  arrives : turn.arrival = .request fields
  unfinalized : ¬ IsAuthorizedFinalization policy fields

/-- The turn ends the session. -/
def Ends (p : Provider) (policy : Policy) (session : Session) (turn : Turn) : Prop :=
  brokerTerminalReason policy turn ≠ none ∨
  (∃ fields, turn.arrival = .request fields ∧ IsAuthorizedFinalization policy fields) ∨
  ∃ fields admitted, Handles policy turn fields ∧
    admitCall policy session.calls turn.elapsedSeconds fields = .ok (.inr admitted) ∧
    CallEnds p policy session.calls turn

/-- No exception leaves the broker in this turn: the clock is not behind the start of the session when
the session ends, no temperature is too large for a float, and a call that is started is
accountable. -/
structure Accountable (p : Provider) (policy : Policy) (session : Session) (turn : Turn) : Prop where
  closes : Ends p policy session turn → session.startedAt ≤ turn.closedAt
  admits : ∀ fields, Handles policy turn fields →
    admitCall policy session.calls turn.elapsedSeconds fields ≠ .error .overflow
  calls : ∀ fields admitted, Handles policy turn fields →
    admitCall policy session.calls turn.elapsedSeconds fields = .ok (.inr admitted) →
      CallAccountable p policy admitted turn

/-- The sessions of a broker that serves, with every call recorded. -/
structure Broker.Current (p : Provider) (broker : Broker) : Prop where
  serving : broker.progress = .serving
  balanced : broker.session.Balanced
  recorded : broker.invocations.map (·.trace p) = broker.session.calls.map (·.trace)

lemma Broker.Current.accounted {broker : Broker} (h : broker.Current p) : broker.Accounted p := by
  unfold Broker.Accounted
  rw [h.serving]
  exact h.recorded

lemma close_accounted (policy : Policy) {broker : Broker} (hclosable : broker.session.Closable)
    (hrecorded : broker.invocations.map (·.trace p) =
      broker.session.calls.map (·.trace) ++ broker.session.effectUnknownCalls.map (·.trace))
    (finishedAt : ℚ) :
    (broker.close policy finishedAt).Accounted p ↔ broker.session.startedAt ≤ finishedAt := by
  have hvalid := receiptOf_valid policy hclosable finishedAt
  have hlength : broker.invocations.length =
      broker.session.calls.length + broker.session.effectUnknownCalls.length := by
    simpa using congrArg List.length hrecorded
  have hindices : broker.session.calls.map (·.callIndex) ++
      broker.session.effectUnknownCalls.map (·.callIndex) =
        List.range' 1 broker.invocations.length := by
    rw [hlength, hclosable.indices]
    obtain hnone | ⟨call, hone, hindex, -⟩ := hclosable.unknown
    · simp [hnone]
    · simp [hone, hindex, List.range'_concat, add_comm]
  unfold Broker.close
  cases herror : receiptError (receiptOf policy broker.session finishedAt) with
  | none =>
    simp only [Broker.Accounted, herror]
    exact ⟨fun _ => hvalid.mp herror, fun _ => ⟨trivial, hrecorded, hindices⟩⟩
  | some message =>
    simp only [Broker.Accounted, herror]
    refine ⟨False.elim, fun hclock => ?_⟩
    rw [hvalid.mpr hclock] at herror
    cases herror

lemma next_accounted (policy : Policy) {broker : Broker} (hserving : broker.progress = .serving)
    (hclosable : broker.session.Closable)
    (hrecorded : broker.invocations.map (·.trace p) =
      broker.session.calls.map (·.trace) ++ broker.session.effectUnknownCalls.map (·.trace))
    (finishedAt : ℚ) :
    ((broker.next policy finishedAt).Accounted p ↔
      (broker.session.terminalFailure ≠ none → broker.session.startedAt ≤ finishedAt)) ∧
    ((broker.next policy finishedAt).progress = .serving →
      (broker.next policy finishedAt).Current p) := by
  unfold Broker.next
  cases hfailure : broker.session.terminalFailure with
  | some reason =>
    refine ⟨?_, fun h => ?_⟩
    · rw [close_accounted policy hclosable hrecorded]
      simp
    · simp only [Broker.close] at h
      split at h <;> cases h
  | none =>
    have hknown : broker.session.effectUnknownCalls = [] := by
      obtain hnone | ⟨call, -, -, hfailed⟩ := hclosable.unknown
      · exact hnone
      · exact absurd hfailure hfailed
    have hcurrent : broker.Current p :=
      ⟨hserving, ⟨hfailure, hknown, hclosable.indices⟩, by simpa [hknown] using hrecorded⟩
    exact ⟨⟨fun _ h => absurd rfl h, fun _ => hcurrent.accounted⟩, fun _ => hcurrent⟩

lemma admitted_accounted {broker : Broker} (h : broker.Current p) {outcome : CallOutcome}
    (method : Method)
    (houtcome : executeAdmittedCall p policy broker.session.calls admitted turn = some outcome) :
    let settled : Broker := { broker with
      session := broker.session.settle outcome turn
      invocations := broker.invocations ++ [⟨admitted, method⟩] }
    ((settled.next policy turn.closedAt).Accounted p ↔
      (CallEnds p policy broker.session.calls turn → broker.session.startedAt ≤ turn.closedAt)) ∧
    ((settled.next policy turn.closedAt).progress = .serving →
      (settled.next policy turn.closedAt).Current p) := by
  intro settled
  have hunfailed := h.balanced.unfailed
  have hknown := h.balanced.known
  have hindices := h.balanced.indices
  obtain ⟨hmetered, call, hknownCall⟩ | ⟨hunmetered, call, hunknownCall⟩ :=
    executeAdmittedCall_some houtcome
  · -- The call is recorded; the session ends if it overshoots or is not delivered.
    have hsession : settled.session = { broker.session with
        calls := broker.session.calls ++ [call]
        deniedCalls := broker.session.deniedCalls + outcome.deniedReason.toList.length
        terminalFailure :=
          (responseBudgetFailure policy broker.session.calls call turn.elapsedSeconds).or
            (if !turn.delivered then
              some "provider broker response transport failed after provider effect" else none) } := by
      simp only [settled, settle_eq]
      simp [hunfailed, hknown, hknownCall.call_eq, hknownCall.unknown_eq, hknownCall.failure]
    have hends : settled.session.terminalFailure ≠ none ↔
        CallEnds p policy broker.session.calls turn := by
      rw [CallEnds, ← hknownCall.overshoots, hsession]
      cases turn.delivered <;> simp [hmetered]
    have hclosable : settled.session.Closable := by
      refine ⟨?_, .inl (by rw [hsession]; exact hknown), ?_⟩
      · rw [hsession]
        simp [hindices, hknownCall.records.index_eq, List.range'_concat, add_comm]
      · rw [hsession]
        intro reason hreason
        simp only [Option.mem_def, Option.or_eq_some_iff] at hreason
        obtain hfatal | ⟨-, hlost⟩ := hreason
        · exact responseBudgetFailure_visible hfatal
        · split at hlost <;> cases hlost
          decide
    have hrecorded : settled.invocations.map (·.trace p) =
        settled.session.calls.map (·.trace) ++
          settled.session.effectUnknownCalls.map (·.trace) := by
      have hstarted : Invocation.trace p ⟨admitted, method⟩ = call.trace :=
        hknownCall.records.trace_eq.symm
      rw [hsession]
      simp [settled, h.recorded, hknown, hstarted]
    have hstart : settled.session.startedAt = broker.session.startedAt := by rw [hsession]
    have hserving : settled.progress = .serving := h.serving
    have hnext := next_accounted policy hserving hclosable hrecorded turn.closedAt
    rw [hends, hstart] at hnext
    exact hnext
  · -- The effect is unknown, which ends the session.
    have hsession : settled.session = { broker.session with
        effectUnknownCalls := [call]
        deniedCalls := broker.session.deniedCalls + outcome.deniedReason.toList.length
        terminalFailure := some "provider broker effect outcome is unknown" } := by
      simp only [settled, settle_eq]
      simp [hunfailed, hknown, hunknownCall.call_eq, hunknownCall.unknown_eq, hunknownCall.failure]
    have hends : settled.session.terminalFailure ≠ none ↔
        CallEnds p policy broker.session.calls turn := by
      rw [hsession]
      exact ⟨fun _ => .inl hunmetered, fun _ => by simp⟩
    have hclosable : settled.session.Closable := by
      rw [hsession]
      refine ⟨hindices, .inr ⟨call, rfl, hunknownCall.records.index_eq, by simp⟩, ?_⟩
      rintro reason ⟨⟩
      decide
    have hrecorded : settled.invocations.map (·.trace p) =
        settled.session.calls.map (·.trace) ++
          settled.session.effectUnknownCalls.map (·.trace) := by
      have hstarted : Invocation.trace p ⟨admitted, method⟩ = call.trace :=
        hunknownCall.records.trace_eq.symm
      rw [hsession]
      simp [settled, h.recorded, hstarted]
    have hstart : settled.session.startedAt = broker.session.startedAt := by rw [hsession]
    have hserving : settled.progress = .serving := h.serving
    have hnext := next_accounted policy hserving hclosable hrecorded turn.closedAt
    rw [hends, hstart] at hnext
    exact hnext

/-! ## The server loop -/

lemma Broker.Current.denied {broker : Broker} (h : broker.Current p) (deniedCalls : ℕ) :
    Broker.Current p { broker with session := { broker.session with deniedCalls } } :=
  ⟨h.serving, ⟨h.balanced.unfailed, h.balanced.known, h.balanced.indices⟩, h.recorded⟩

lemma close_progress (policy : Policy) (broker : Broker) (finishedAt : ℚ) :
    (broker.close policy finishedAt).progress ≠ .serving := by
  simp only [Broker.close]
  split <;> simp

lemma accountable_unhandled (h : ∀ fields, ¬ Handles policy turn fields) :
    Accountable p policy session turn ↔
      (Ends p policy session turn → session.startedAt ≤ turn.closedAt) :=
  ⟨fun hacc => hacc.closes, fun hcloses => ⟨hcloses, fun fields hh => absurd hh (h fields),
    fun fields _ hh => absurd hh (h fields)⟩⟩

variable {fields : Object}

lemma accountable_handled (h : Handles policy turn fields) :
    Accountable p policy session turn ↔
      (∀ admitted, admitCall policy session.calls turn.elapsedSeconds fields =
          .ok (.inr admitted) →
        (CallEnds p policy session.calls turn → session.startedAt ≤ turn.closedAt) ∧
          CallAccountable p policy admitted turn) ∧
      admitCall policy session.calls turn.elapsedSeconds fields ≠ .error .overflow := by
  have hsame : ∀ fields', Handles policy turn fields' → fields' = fields := by
    intro fields' h'
    have harrives := h.arrives
    rw [h'.arrives] at harrives
    cases harrives
    rfl
  constructor
  · intro hacc
    refine ⟨fun admitted hadmission => ⟨fun hends => ?_, hacc.calls fields admitted h hadmission⟩,
      hacc.admits fields h⟩
    exact hacc.closes (.inr (.inr ⟨fields, admitted, h, hadmission, hends⟩))
  · rintro ⟨hcalls, hadmits⟩
    refine ⟨?_, fun fields' h' => ?_, fun fields' admitted h' => ?_⟩
    · rintro (hreason | ⟨fields', harrives, hfinal⟩ | ⟨fields', admitted, h', hadmission, hends⟩)
      · exact absurd h.inTime hreason
      · rw [h.arrives] at harrives
        cases harrives
        exact absurd hfinal h.unfinalized
      · rw [hsame fields' h'] at hadmission
        exact (hcalls admitted hadmission).1 hends
    · rw [hsame fields' h']
      exact hadmits
    · rw [hsame fields' h']
      exact fun hadmission => (hcalls admitted hadmission).2

lemma Handles.elapsed_lt (h : Handles policy turn fields) :
    turn.elapsedSeconds < policy.timeoutSeconds := by
  by_contra hlate
  have hreason := h.inTime
  simp [brokerTerminalReason, not_lt.mp hlate] at hreason

lemma call_accounted_iff {broker : Broker} (h : broker.Current p)
    (hhandles : Handles policy turn fields) :
    ((broker.call p policy fields turn).Accounted p ↔
      Accountable p policy broker.session turn) ∧
    ((broker.call p policy fields turn).progress = .serving →
      (broker.call p policy fields turn).Current p) := by
  have hinTime := hhandles.elapsed_lt
  have hdenied : ∀ outcome : CallOutcome, outcome.Denial → outcome.terminalFailure = none →
      handleCall p policy broker.session.calls fields turn = (none, some outcome) →
      (broker.call p policy fields turn).Current p := by
    intro outcome hdenial hgoes hhandled
    have hcurrent := h.denied (broker.session.deniedCalls + 1)
    simp only [Broker.call, hhandled, settle_denial hdenial hgoes, Broker.next]
    simpa [h.balanced.unfailed] using hcurrent
  rw [accountable_handled hhandles]
  cases hadmission : admitCall policy broker.session.calls turn.elapsedSeconds fields with
  | error e =>
    cases e with
    | caught message =>
      have hcurrent := hdenied (malformedRequestOutcome message)
        ⟨rfl, rfl, by simp [malformedRequestOutcome]⟩ rfl (by simp [handleCall, hadmission])
      refine ⟨⟨fun _ => ⟨fun _ hok => (by cases hok), by simp⟩, fun _ => hcurrent.accounted⟩,
        fun _ => hcurrent⟩
    | overflow =>
      have hescaped : (broker.call p policy fields turn).progress = .escaped := by
        simp [Broker.call, handleCall, hadmission]
      refine ⟨⟨fun hacc => ?_, fun hacc => absurd rfl hacc.2⟩, fun hserving => ?_⟩
      · simp [Broker.Accounted, hescaped] at hacc
      · rw [hescaped] at hserving
        cases hserving
  | ok admission =>
    obtain ⟨outcome, rfl, hdenial, hgoes⟩ | ⟨admitted, rfl, hrequest, -⟩ := admitCall_eq_ok hadmission
    · have hcurrent := hdenied outcome hdenial (hgoes hinTime) (by simp [handleCall, hadmission])
      refine ⟨⟨fun _ => ⟨fun _ hok => (by cases hok), by simp⟩, fun _ => hcurrent.accounted⟩,
        fun _ => hcurrent⟩
    · cases houtcome : executeAdmittedCall p policy broker.session.calls admitted turn with
      | none =>
        have hnot : ¬ CallAccountable p policy admitted turn := by
          rw [← executeAdmittedCall_isSome broker.session.calls, houtcome]
          simp
        have hescaped : (broker.call p policy fields turn).progress = .escaped := by
          simp [Broker.call, handleCall, hadmission, houtcome]
        refine ⟨⟨fun hacc => ?_, fun hacc => absurd (hacc.1 admitted rfl).2 hnot⟩,
          fun hserving => ?_⟩
        · simp [Broker.Accounted, hescaped] at hacc
        · rw [hescaped] at hserving
          cases hserving
      | some outcome =>
        have haccountable : CallAccountable p policy admitted turn := by
          rw [← executeAdmittedCall_isSome broker.session.calls, houtcome]
          rfl
        have hcall : broker.call p policy fields turn =
            ({ broker with
              session := broker.session.settle outcome turn
              invocations := broker.invocations ++ [⟨admitted, clientMethod p admitted⟩] } :
                Broker).next policy turn.closedAt := by
          simp [Broker.call, handleCall, hadmission, houtcome]
        obtain ⟨haccounted, hcurrent⟩ := admitted_accounted h (clientMethod p admitted) houtcome
        rw [hcall]
        refine ⟨haccounted.trans ⟨fun hends => ⟨?_, by simp⟩, fun hacc => (hacc.1 admitted rfl).1⟩,
          hcurrent⟩
        rintro admitted' ⟨⟩
        exact ⟨hends, haccountable⟩

/-- **One turn of a broker that serves**: it leaves every call recorded exactly if it is
accountable. -/
theorem serve_accounted_iff (policy : Policy) {broker : Broker} (h : broker.Current p) (turn : Turn) :
    ((broker.serve p policy turn).Accounted p ↔ Accountable p policy broker.session turn) ∧
    ((broker.serve p policy turn).progress = .serving →
      (broker.serve p policy turn).Current p) := by
  have hrecorded : broker.invocations.map (·.trace p) =
      broker.session.calls.map (·.trace) ++ broker.session.effectUnknownCalls.map (·.trace) := by
    simp [h.recorded, h.balanced.known]
  cases hreason : brokerTerminalReason policy turn with
  | some reason =>
    -- The time is over or the peer is gone: the session is closed.
    have hserve : broker.serve p policy turn =
        ({ broker with session := broker.session.fail reason } : Broker).close policy
          turn.closedAt := by
      simp [Broker.serve, h.serving, hreason]
    have hout : ∀ fields, ¬ Handles policy turn fields := by
      rintro fields ⟨hinTime, -, -⟩
      rw [hreason] at hinTime
      cases hinTime
    have hends : Ends p policy broker.session turn := .inl (by simp [hreason])
    have hvisible : ¬ Blank reason := by
      unfold brokerTerminalReason at hreason
      split_ifs at hreason <;> cases hreason <;> decide
    have hclosable : (broker.session.fail reason).Closable := by
      rw [fail_eq]
      refine ⟨h.balanced.indices, .inl h.balanced.known, ?_⟩
      simp [h.balanced.unfailed, hvisible]
    rw [hserve, accountable_unhandled hout,
      close_accounted policy hclosable (by simpa [fail_eq] using hrecorded)]
    refine ⟨?_, fun hserving => absurd hserving (close_progress _ _ _)⟩
    simp [fail_eq, hends]
  | none =>
    have hserve : broker.serve p policy turn = broker.connection p policy turn := by
      simp [Broker.serve, h.serving, hreason]
    have hidle : (∀ fields, turn.arrival ≠ .request fields) →
        Accountable p policy broker.session turn := by
      intro hquiet
      rw [accountable_unhandled fun fields hh => hquiet fields hh.arrives]
      rintro (hlate | ⟨fields, harrives, -⟩ | ⟨fields, -, hh, -⟩)
      · exact absurd hreason hlate
      · exact absurd harrives (hquiet fields)
      · exact absurd hh.arrives (hquiet fields)
    rw [hserve, Broker.connection]
    cases harrival : turn.arrival with
    | idle =>
      exact ⟨⟨fun _ => hidle (by simp [harrival]), fun _ => h.accounted⟩, fun _ => h⟩
    | refused message =>
      have hcurrent := h.denied (broker.session.deniedCalls + 1)
      exact ⟨⟨fun _ => hidle (by simp [harrival]), fun _ => hcurrent.accounted⟩, fun _ => hcurrent⟩
    | request fields =>
      by_cases hfinal : IsAuthorizedFinalization policy fields
      · have hout : ∀ fields', ¬ Handles policy turn fields' := by
          rintro fields' ⟨-, harrives, hnot⟩
          rw [harrival] at harrives
          cases harrives
          exact hnot hfinal
        have hends : Ends p policy broker.session turn := .inr (.inl ⟨fields, harrival, hfinal⟩)
        simp only [hfinal, if_true]
        rw [accountable_unhandled hout, close_accounted policy h.balanced.closable hrecorded]
        refine ⟨by simp [hends], fun hserving => absurd hserving (close_progress _ _ _)⟩
      · simp only [hfinal, if_false]
        exact call_accounted_iff h ⟨hreason, harrival, hfinal⟩

/-! ## Sessions -/

lemma run_stopped (p : Provider) (policy : Policy) {b : Broker} (h : b.progress ≠ .serving) (turns : List Turn) :
    (broker p policy).run b turns = b := by
  induction turns with
  | nil => rfl
  | cons turn turns ih =>
    have hsame : (broker p policy).step b turn = b := by
      show b.serve p policy turn = b
      unfold Broker.serve
      cases hprogress : b.progress with
      | serving => exact absurd hprogress h
      | closed receipt | escaped => rfl
    rw [Machine.run_cons, hsame, ih]

lemma run_accounted_iff {b : Broker} (h : b.Current p) (turns : List Turn) :
    ((broker p policy).run b turns).Accounted p ↔
      (broker p policy).Along
        (fun b turn => b.progress = .serving → Accountable p policy b.session turn) b turns := by
  induction turns generalizing b with
  | nil => exact ⟨fun _ => trivial, fun _ => h.accounted⟩
  | cons turn turns ih =>
    obtain ⟨hturn, hcurrent⟩ := serve_accounted_iff policy h turn
    rw [Machine.run_cons, Machine.along_cons]
    have hstep : (broker p policy).step b turn = b.serve p policy turn := rfl
    by_cases hserving : (b.serve p policy turn).progress = .serving
    · rw [hstep, ih (hcurrent hserving)]
      have hacc := hturn.mp (hcurrent hserving).accounted
      exact ⟨fun halong => ⟨fun _ => hacc, halong⟩, fun halong => halong.2⟩
    · rw [hstep, run_stopped p policy hserving, hturn]
      refine ⟨fun hacc => ⟨fun _ => hacc, ?_⟩, fun halong => halong.1 h.serving⟩
      -- The broker does not serve any more.
      have hstays : ∀ turns', (broker p policy).Along
          (fun b turn => b.progress = .serving → Accountable p policy b.session turn)
          (b.serve p policy turn) turns' := by
        intro turns'
        induction turns' with
        | nil => trivial
        | cons turn' turns' ih' =>
          have hsame := run_stopped p policy hserving [turn']
          rw [Machine.run_cons, Machine.run_nil] at hsame
          refine ⟨fun hs => absurd hs hserving, ?_⟩
          rw [hsame]
          exact ih'
      exact hstays turns

lemma opened_current (startedAt : ℚ) : (Broker.opened startedAt).Current p :=
  ⟨rfl, ⟨rfl, rfl, rfl⟩, rfl⟩

/-- **The broker accounts for every effect exactly if its turns are accountable.** Over every sequence
of requests, client answers and clock readings, the started client calls are the recorded ones, in
order, and a closed session has a valid receipt that counts them from one, if and only if in every
turn the clock is not behind the start of a session that ends, no temperature is an integer too large
for a float, and a client call that is started does not end the process, has a request with a JSON
text, and finds the clock not behind its start when its effect stays unknown. -/
theorem effects_accounted_iff (p : Provider) (policy : Policy) (startedAt : ℚ)
    (turns : List Turn) :
    ((broker p policy).run (.opened startedAt) turns).Accounted p ↔
      (broker p policy).Along
        (fun b turn => b.progress = .serving → Accountable p policy b.session turn)
        (.opened startedAt) turns :=
  run_accounted_iff (opened_current startedAt) turns

namespace Surrogate

/-- A client without prices, and a digest that is never read. -/
def scripted : Provider where
  isReplay := true
  toolCapable := false
  estimateCostUsd _ _ _ _ _ := .ok none
  sha256 _ := "digest"

def brokerName : NonEmptyStr := ⟨"surrogate-broker", by decide⟩

def oneCall : Policy where
  brokerId := brokerName
  contentSha256 := "pinned policy"
  model := brokerName
  maxMainCalls := 7
  maxAuxiliaryCalls := 0
  maxCalls := 7
  maxTotalTokens := none
  maxCostUsd := none
  timeoutSeconds := 90
  main_pos := Nat.succ_pos 6
  tokens_pos := nofun
  cost_pos := nofun
  timeout_pos := Nat.succ_pos 89
  calls_eq := rfl

/-- An authorised request whose message has a lone surrogate. -/
def surrogateRequest : Object :=
  [(text "operation", .str (text "generate")),
    (text "policy_sha256", .str (text "pinned policy")),
    (text "model", .str (text "surrogate-broker")),
    (text "call_plane", .str (text "main")),
    (text "messages", .array [.object [(text "role", .str (text "user")),
      (text "content", .str [0xD800])]])]

/-- The client answers, and the clock goes on. -/
def surrogateTurn : Turn where
  elapsedSeconds := 1
  peerAlive := true
  arrival := .request surrogateRequest
  answer := .returns {}
  startedAt := 1
  finishedAt := 2
  recordedAt := 3
  delivered := true
  closedAt := 4

def hasEscaped : Progress → Bool
  | .escaped => true
  | _ => false

/-- The client was called, but the exception leaves the broker: nothing accounts for the call. -/
theorem not_accounted_surrogate :
    ((broker scripted oneCall).run (.opened 0) [surrogateTurn]).invocations.length = 1 ∧
      ¬ ((broker scripted oneCall).run (.opened 0) [surrogateTurn]).Accounted scripted := by
  have hescaped : hasEscaped
      ((broker scripted oneCall).run (.opened 0) [surrogateTurn]).progress = true := by
    decide +kernel
  refine ⟨by decide +kernel, fun hacc => ?_⟩
  unfold Broker.Accounted at hacc
  split at hacc
  · rename_i hprogress
    rw [hprogress] at hescaped
    cases hescaped
  · rename_i hprogress
    rw [hprogress] at hescaped
    cases hescaped
  · exact hacc

end Surrogate

end AecBench.ProviderBroker
