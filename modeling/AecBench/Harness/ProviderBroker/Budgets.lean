import AecBench.Harness.ProviderBroker.Accounting

/-!
# The budgets of the provider broker

A client call is started by one step of the server loop only, after every budget was compared with
what the session recorded. What the session recorded stays within the budgets while it serves, so
that whatever exceeds one ends the session.

## Main definitions

* `Broker.Frugal` — the started calls are within the caps, and the records of a session that serves
  within the budgets.
* `Session.Stopped` — a budget was exceeded, or an effect is unknown.

## Main results

* `serve_invocations` — when a turn starts a client call.
* `serve_frugal` — one turn keeps the budgets.
* `budgets_hold` — the budgets over all runs.
-/

namespace AecBench.ProviderBroker

open Text Wire

variable {p : Provider} {policy : Policy} {turn : Turn} {b : Broker}

/-- The started calls are within the caps; while the session serves, its tokens and its cost are
within the budgets. -/
structure Broker.Frugal (policy : Policy) (b : Broker) : Prop where
  total : b.invocations.length ≤ policy.maxCalls
  plane : ∀ callPlane, b.invocations.countP (·.admitted.callPlane = callPlane) ≤
    policy.planeLimit callPlane
  tokens : b.progress = .serving → ∀ limit ∈ policy.maxTotalTokens,
    (b.session.calls.map callTokens).sum ≤ limit
  cost : b.progress = .serving → ∀ limit ∈ policy.maxCostUsd,
    (b.session.calls.map (·.costUsd)).sum ≤ limit

/-- A budget was exceeded, or the effect of a call is unknown, or the session failed. -/
def Session.Stopped (policy : Policy) (session : Session) : Prop :=
  session.effectUnknownCalls ≠ [] ∨ session.terminalFailure ≠ none ∨
  (∃ limit ∈ policy.maxTotalTokens, limit < (session.calls.map callTokens).sum) ∨
  ∃ limit ∈ policy.maxCostUsd, limit < (session.calls.map (·.costUsd)).sum

/-! ## One turn -/

/-- The turn starts a client call. -/
structure Starts (policy : Policy) (b : Broker) (turn : Turn) (admitted : AdmittedCall) : Prop where
  serving : b.progress = .serving
  handles : Handles policy turn admitted.request
  admits : admitCall policy b.session.calls turn.elapsedSeconds admitted.request =
    .ok (.inr admitted)

lemma close_invocations (finishedAt : ℚ) :
    (b.close policy finishedAt).invocations = b.invocations := by
  simp only [Broker.close]
  split <;> rfl

lemma next_invocations (finishedAt : ℚ) :
    (b.next policy finishedAt).invocations = b.invocations := by
  unfold Broker.next
  split
  · exact close_invocations finishedAt
  · rfl

variable {fields : Object}

lemma call_invocations :
    (b.call p policy fields turn).invocations =
      b.invocations ++ (handleCall p policy b.session.calls fields turn).1.toList := by
  unfold Broker.call
  dsimp only
  split
  · rfl
  · rw [next_invocations]

/-- **A turn starts at most one client call**, the one that it admits. -/
theorem serve_invocations (p : Provider) (policy : Policy) (b : Broker) (turn : Turn) :
    (b.serve p policy turn).invocations = b.invocations ∨
      ∃ admitted, Starts policy b turn admitted ∧
        (b.serve p policy turn).invocations =
          b.invocations ++ [⟨admitted, clientMethod p admitted⟩] := by
  unfold Broker.serve
  split
  · rename_i hserving
    split
    · exact .inl (close_invocations _)
    · rename_i hinTime
      unfold Broker.connection
      split
      · exact .inl rfl
      · exact .inl rfl
      · rename_i fields harrival
        split
        · exact .inl (close_invocations _)
        · rename_i hunfinalized
          rw [call_invocations]
          unfold handleCall
          cases hadmission : admitCall policy b.session.calls turn.elapsedSeconds fields with
          | error e => cases e <;> simp
          | ok admission =>
            obtain ⟨outcome, rfl, -⟩ | ⟨admitted, rfl, rfl, -⟩ := admitCall_eq_ok hadmission
            · simp
            · exact .inr ⟨admitted, ⟨hserving, ⟨hinTime, harrival, hunfinalized⟩, hadmission⟩, rfl⟩
  · exact .inl rfl

lemma callBudgetRejection_eq_none {calls : List CallReceipt} {callPlane : CallPlane}
    {elapsedSeconds : ℚ} (h : callBudgetRejection policy calls callPlane elapsedSeconds = none) :
    elapsedSeconds < policy.timeoutSeconds ∧ calls.length < policy.maxCalls ∧
      calls.countP (·.callPlane = callPlane) < policy.planeLimit callPlane ∧
      (∀ limit ∈ policy.maxTotalTokens, (calls.map callTokens).sum < limit) ∧
      ∀ limit ∈ policy.maxCostUsd, (calls.map (·.costUsd)).sum < limit := by
  unfold callBudgetRejection at h
  split_ifs at h with htime htotal hplane htokens hcost
  refine ⟨not_le.mp htime, not_le.mp htotal, not_le.mp hplane, fun limit hlimit => ?_,
    fun limit hlimit => ?_⟩
  · exact not_le.mp fun hreached => htokens ⟨limit, hlimit, hreached⟩
  · exact not_le.mp fun hreached => hcost ⟨limit, hlimit, hreached⟩

lemma Starts.budgets {admitted : AdmittedCall} (h : Starts policy b turn admitted) :
    callBudgetRejection policy b.session.calls admitted.callPlane turn.elapsedSeconds = none := by
  obtain ⟨outcome, heq, -⟩ | ⟨admitted', heq, -, hbudget⟩ := admitCall_eq_ok h.admits
  · cases heq
  · cases heq
    exact hbudget

lemma Broker.Current.planes (h : b.Current p) (callPlane : CallPlane) :
    b.invocations.countP (·.admitted.callPlane = callPlane) =
      b.session.calls.countP (·.callPlane = callPlane) := by
  have hplanes : b.invocations.map (·.admitted.callPlane) = b.session.calls.map (·.callPlane) := by
    have hmapped := congrArg (List.map Trace.callPlane) h.recorded
    simpa [Invocation.trace, CallReceipt.trace, Function.comp_def] using hmapped
  have hcount := congrArg (List.countP (· = callPlane)) hplanes
  simpa [List.countP_map, Function.comp_def] using hcount

lemma Broker.Current.length (h : b.Current p) : b.invocations.length = b.session.calls.length := by
  simpa using congrArg List.length h.recorded

/-! ## What a turn records -/

lemma close_session (finishedAt : ℚ) : (b.close policy finishedAt).session = b.session := by
  simp only [Broker.close]
  split <;> rfl

lemma next_session (finishedAt : ℚ) : (b.next policy finishedAt).session = b.session := by
  unfold Broker.next
  split
  · exact close_session finishedAt
  · rfl

lemma call_session {outcome : CallOutcome}
    (h : (handleCall p policy b.session.calls fields turn).2 = some outcome) :
    (b.call p policy fields turn).session = b.session.settle outcome turn := by
  unfold Broker.call
  simp only [h]
  rw [next_session]

/-- A turn of a broker that serves is one that handles a call, or records no call. -/
lemma serve_handles (p : Provider) (policy : Policy) (turn : Turn)
    (hserving : b.progress = .serving) :
    (∃ fields, Handles policy turn fields ∧
      b.serve p policy turn = b.call p policy fields turn) ∨
    (b.serve p policy turn).session.calls = b.session.calls := by
  unfold Broker.serve
  rw [hserving]
  dsimp only
  split
  · rw [close_session, fail_eq]
    exact .inr rfl
  · rename_i hinTime
    unfold Broker.connection
    split
    · exact .inr rfl
    · exact .inr rfl
    · rename_i fields harrival
      split
      · rw [close_session]
        exact .inr rfl
      · rename_i hunfinalized
        exact .inl ⟨fields, ⟨hinTime, harrival, hunfinalized⟩, rfl⟩

/-- **A turn records at most one call**, and one that exceeds a budget fails the session. -/
lemma serve_calls (p : Provider) (policy : Policy) (turn : Turn) (hserving : b.progress = .serving) :
    (b.serve p policy turn).session.calls = b.session.calls ∨
      ∃ call, (b.serve p policy turn).session.calls = b.session.calls ++ [call] ∧
        (responseBudgetFailure policy b.session.calls call turn.elapsedSeconds ≠ none →
          (b.serve p policy turn).session.terminalFailure ≠ none) := by
  obtain ⟨fields, -, hcall⟩ | hsame := serve_handles p policy turn hserving
  · rw [hcall]
    cases hhandled : (handleCall p policy b.session.calls fields turn).2 with
    | none =>
      refine .inl ?_
      unfold Broker.call
      simp only [hhandled]
    | some outcome =>
      rw [call_session hhandled, settle_eq]
      unfold handleCall at hhandled
      cases hadmission : admitCall policy b.session.calls turn.elapsedSeconds fields with
      | error e =>
        rw [hadmission] at hhandled
        cases e <;> cases hhandled
        exact .inl (by simp [malformedRequestOutcome])
      | ok admission =>
        rw [hadmission] at hhandled
        obtain ⟨denied, rfl, hdenial, -⟩ | ⟨admitted, rfl, -, -⟩ := admitCall_eq_ok hadmission
        · cases hhandled
          exact .inl (by simp [hdenial.call])
        · obtain ⟨-, call, hknown⟩ | ⟨-, call, hunknown⟩ := executeAdmittedCall_some hhandled
          · refine .inr ⟨call, by simp [hknown.call_eq], fun hfatal => ?_⟩
            simp [hknown.failure, hfatal]
          · exact .inl (by simp [hunknown.call_eq])
  · exact .inl hsame

lemma responseBudgetFailure_eq_none {calls : List CallReceipt} {call : CallReceipt}
    {elapsedSeconds : ℚ} (h : responseBudgetFailure policy calls call elapsedSeconds = none) :
    (∀ limit ∈ policy.maxTotalTokens, ((calls ++ [call]).map callTokens).sum ≤ limit) ∧
      ∀ limit ∈ policy.maxCostUsd, ((calls ++ [call]).map (·.costUsd)).sum ≤ limit := by
  unfold responseBudgetFailure at h
  split_ifs at h with htokens hcost
  constructor
  · intro limit hlimit
    have hwithin := not_lt.mp fun hover => htokens ⟨limit, hlimit, hover⟩
    simpa using hwithin
  · intro limit hlimit
    have hwithin := not_lt.mp fun hover => hcost ⟨limit, hlimit, hover⟩
    simpa using hwithin

/-- **One turn keeps the budgets.** -/
theorem serve_frugal (hcurrent : b.progress = .serving → b.Current p) (h : b.Frugal policy)
    (turn : Turn) : (b.serve p policy turn).Frugal policy := by
  have hcaps : (b.serve p policy turn).invocations.length ≤ policy.maxCalls ∧
      ∀ callPlane, (b.serve p policy turn).invocations.countP
        (·.admitted.callPlane = callPlane) ≤ policy.planeLimit callPlane := by
    obtain hsame | ⟨admitted, hstarts, hadded⟩ := serve_invocations p policy b turn
    · rw [hsame]
      exact ⟨h.total, h.plane⟩
    · have hb := hcurrent hstarts.serving
      obtain ⟨-, htotal, hplane, -, -⟩ := callBudgetRejection_eq_none hstarts.budgets
      rw [hadded]
      refine ⟨by simpa [hb.length] using Nat.succ_le_of_lt htotal, fun callPlane => ?_⟩
      by_cases hsame : admitted.callPlane = callPlane
      · subst hsame
        rw [← hb.planes] at hplane
        simpa using Nat.succ_le_of_lt hplane
      · simpa [hsame] using h.plane callPlane
  have hrecords : (b.serve p policy turn).progress = .serving →
      (∀ limit ∈ policy.maxTotalTokens,
        ((b.serve p policy turn).session.calls.map callTokens).sum ≤ limit) ∧
      ∀ limit ∈ policy.maxCostUsd,
        ((b.serve p policy turn).session.calls.map (·.costUsd)).sum ≤ limit := by
    intro hserves
    have hserving : b.progress = .serving := by
      by_contra hstopped
      have hsame := run_stopped p policy hstopped [turn]
      exact hstopped (hsame ▸ hserves)
    have hnext := (serve_accounted_iff policy (hcurrent hserving) turn).2 hserves
    obtain hsame | ⟨call, hadded, hfails⟩ := serve_calls p policy turn hserving
    · rw [hsame]
      exact ⟨h.tokens hserving, h.cost hserving⟩
    · have hwithin : responseBudgetFailure policy b.session.calls call turn.elapsedSeconds = none := by
        by_contra hfatal
        exact hfails hfatal hnext.balanced.unfailed
      rw [hadded]
      exact responseBudgetFailure_eq_none hwithin
  exact ⟨hcaps.1, hcaps.2, fun hserving => (hrecords hserving).1,
    fun hserving => (hrecords hserving).2⟩

/-! ## All runs -/

lemma run_frugal (p : Provider) (policy : Policy) (startedAt : ℚ) (turns : List Turn) :
    let b := (broker p policy).run (.opened startedAt) turns
    (b.progress = .serving → b.Current p) ∧ b.Frugal policy := by
  refine (broker p policy).run_preserves_of_forall (C := fun _ => True)
    (I := fun b => (b.progress = .serving → b.Current p) ∧ b.Frugal policy) ?_ ?_ (by simp)
  · rintro b turn ⟨hcurrent, hfrugal⟩ -
    refine ⟨fun hserves => ?_, serve_frugal hcurrent hfrugal turn⟩
    by_cases hserving : b.progress = .serving
    · exact (serve_accounted_iff policy (hcurrent hserving) turn).2 hserves
    · have hsame := run_stopped p policy hserving [turn]
      rw [Machine.run_cons, Machine.run_nil] at hsame
      rw [hsame] at hserves
      exact absurd hserves hserving
  · refine ⟨fun _ => opened_current startedAt, ?_⟩
    refine ⟨by simp [Broker.opened], by simp [Broker.opened], by simp [Broker.opened], ?_⟩
    exact fun _ limit hlimit => (policy.cost_pos limit hlimit).le

lemma Broker.Frugal.not_stopped (h : b.Frugal policy) (hcurrent : b.Current p) :
    ¬ b.session.Stopped policy := by
  rintro (hunknown | hfailed | ⟨limit, hlimit, hover⟩ | ⟨limit, hlimit, hover⟩)
  · exact hunknown hcurrent.balanced.known
  · exact hfailed hcurrent.balanced.unfailed
  · exact absurd (h.tokens hcurrent.serving limit hlimit) (not_le.mpr hover)
  · exact absurd (h.cost hcurrent.serving limit hlimit) (not_le.mpr hover)

/-- A request that is not admitted starts no client call; its denial is all that is recorded. -/
lemma refused_unchanged (hserving : b.progress = .serving) (hhandles : Handles policy turn fields)
    (hrefused : ∀ admitted, admitCall policy b.session.calls turn.elapsedSeconds fields ≠
      .ok (.inr admitted)) :
    (b.serve p policy turn).invocations = b.invocations ∧
    (admitCall policy b.session.calls turn.elapsedSeconds fields ≠ .error .overflow →
      (b.serve p policy turn).session =
        { b.session with deniedCalls := b.session.deniedCalls + 1 }) ∧
    (admitCall policy b.session.calls turn.elapsedSeconds fields = .error .overflow →
      (b.serve p policy turn).session = b.session) := by
  have hserve : b.serve p policy turn = b.call p policy fields turn := by
    simp [Broker.serve, hserving, hhandles.inTime, Broker.connection, hhandles.arrives,
      hhandles.unfinalized]
  rw [hserve, call_invocations]
  have hdenied : ∀ outcome : CallOutcome, outcome.Denial → outcome.terminalFailure = none →
      handleCall p policy b.session.calls fields turn = (none, some outcome) →
      (b.call p policy fields turn).session =
        { b.session with deniedCalls := b.session.deniedCalls + 1 } := by
    intro outcome hdenial hgoes hhandled
    rw [call_session (by rw [hhandled]), settle_denial hdenial hgoes]
  cases hadmission : admitCall policy b.session.calls turn.elapsedSeconds fields with
  | error e =>
    cases e with
    | caught message =>
      have hhandled : handleCall p policy b.session.calls fields turn =
          (none, some (malformedRequestOutcome message)) := by simp [handleCall, hadmission]
      refine ⟨by simp [hhandled], fun _ => hdenied _ ⟨rfl, rfl, ?_⟩ rfl hhandled, fun h => by cases h⟩
      simp [malformedRequestOutcome]
    | overflow =>
      have hhandled : handleCall p policy b.session.calls fields turn = (none, none) := by
        simp [handleCall, hadmission]
      refine ⟨by simp [hhandled], fun h => absurd rfl h, fun _ => ?_⟩
      simp [Broker.call, hhandled]
  | ok admission =>
    obtain ⟨outcome, rfl, hdenial, hgoes⟩ | ⟨admitted, rfl, -, -⟩ := admitCall_eq_ok hadmission
    · have hhandled : handleCall p policy b.session.calls fields turn = (none, some outcome) := by
        simp [handleCall, hadmission]
      exact ⟨by simp [hhandled],
        fun _ => hdenied outcome hdenial (hgoes hhandles.elapsed_lt) hhandled, fun h => by cases h⟩
    · exact absurd hadmission (hrefused admitted)

/-- **The budgets of a broker hold on every run.** After every sequence of requests, client answers
and clock readings: the started client calls are within the caps of their planes and in total; a turn
that starts a client call finds the recorded tokens, the recorded cost and the elapsed time below
their limits; once a budget was exceeded, an effect is unknown or the session failed, no further
client call is started, and a response that exceeds a budget fails the session; and a request that is
not admitted starts no client call and changes nothing but the number of denials. -/
theorem budgets_hold (p : Provider) (policy : Policy) (startedAt : ℚ) (turns : List Turn) :
    let b := (broker p policy).run (.opened startedAt) turns
    (b.invocations.length ≤ policy.maxCalls ∧
      ∀ callPlane, b.invocations.countP (·.admitted.callPlane = callPlane) ≤
        policy.planeLimit callPlane) ∧
    (∀ turn, (b.serve p policy turn).invocations ≠ b.invocations →
      (∃ invocation, (b.serve p policy turn).invocations = b.invocations ++ [invocation]) ∧
      turn.elapsedSeconds < policy.timeoutSeconds ∧
      (∀ limit ∈ policy.maxTotalTokens, (b.session.calls.map callTokens).sum < limit) ∧
      ∀ limit ∈ policy.maxCostUsd, (b.session.calls.map (·.costUsd)).sum < limit) ∧
    (b.session.Stopped policy →
      ∀ later, ((broker p policy).run b later).invocations = b.invocations) ∧
    (∀ turn call, (b.serve p policy turn).session.calls = b.session.calls ++ [call] →
      responseBudgetFailure policy b.session.calls call turn.elapsedSeconds ≠ none →
      (b.serve p policy turn).session.Stopped policy) ∧
    ∀ turn fields, b.progress = .serving → Handles policy turn fields →
      (∀ admitted, admitCall policy b.session.calls turn.elapsedSeconds fields ≠
        .ok (.inr admitted)) →
      (b.serve p policy turn).invocations = b.invocations ∧
      (admitCall policy b.session.calls turn.elapsedSeconds fields ≠ .error .overflow →
        (b.serve p policy turn).session =
          { b.session with deniedCalls := b.session.deniedCalls + 1 }) ∧
      (admitCall policy b.session.calls turn.elapsedSeconds fields = .error .overflow →
        (b.serve p policy turn).session = b.session) := by
  intro b
  obtain ⟨hcurrent, hfrugal⟩ := run_frugal p policy startedAt turns
  refine ⟨⟨hfrugal.total, hfrugal.plane⟩, ?_, ?_, ?_, ?_⟩
  · intro turn hstarted
    obtain hsame | ⟨admitted, hstarts, hadded⟩ := serve_invocations p policy b turn
    · exact absurd hsame hstarted
    · obtain ⟨htime, -, -, htokens, hcost⟩ := callBudgetRejection_eq_none hstarts.budgets
      exact ⟨⟨_, hadded⟩, htime, htokens, hcost⟩
  · intro hstopped later
    by_cases hserving : b.progress = .serving
    · exact absurd hstopped (hfrugal.not_stopped (hcurrent hserving))
    · rw [run_stopped p policy hserving]
  · intro turn call hadded hfatal
    by_cases hserving : b.progress = .serving
    · obtain hsame | ⟨call', hadded', hfails⟩ := serve_calls p policy turn hserving
      · rw [hsame] at hadded
        simp at hadded
      · rw [hadded'] at hadded
        simp only [List.append_cancel_left_eq, List.cons.injEq, and_true] at hadded
        subst hadded
        exact .inr (.inl (hfails hfatal))
    · have hsame := run_stopped p policy hserving [turn]
      have hserve : b.serve p policy turn = b := hsame
      rw [hserve] at hadded
      simp at hadded
  · intro turn fields hserving hhandles hrefused
    exact refused_unchanged hserving hhandles hrefused

end AecBench.ProviderBroker
