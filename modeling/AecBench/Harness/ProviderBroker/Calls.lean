import AecBench.Harness.ProviderBroker.Runtime
import AecBench.Lib.Validation

/-!
# What a call of the broker records

A started client call ends in a receipt of the call or of its unknown effect. Nothing else records
anything: a request that is denied leaves the session as it was, but for the number of its denials.

## Main definitions

* `Trace` — what a receipt says of a call.
* `Meterable`, `Overshoots` — a response that is metered, and one that exceeds a budget.
* `CallAccountable` — a started call that no exception loses.

## Main results

* `executeAdmittedCall_isSome`, `executeAdmittedCall_some` — the outcome of a started call.
* `admitCall_eq_ok` — what admission returns.
* `settle_eq` — what a session becomes.
-/

namespace AecBench.ProviderBroker

open Text Wire

variable {p : Provider} {policy : Policy}

/-! ## Records of calls -/

/-- What a receipt says of a call: its plane, its method and its request. -/
structure Trace where
  callPlane : CallPlane
  method : Method
  requestSha256 : String

def Invocation.trace (p : Provider) (invocation : Invocation) : Trace :=
  ⟨invocation.admitted.callPlane, invocation.admitted.operation,
    p.sha256 (.object invocation.admitted.request)⟩

def CallReceipt.trace (call : CallReceipt) : Trace :=
  ⟨call.callPlane, call.method, call.requestSha256⟩

def UnknownReceipt.trace (call : UnknownReceipt) : Trace :=
  ⟨call.callPlane, call.method, call.requestSha256⟩

/-! ## Calls -/

/-- The response is metered: its cost is known, it has a JSON text, its tokens are counts, and the
clock did not go back during the call. -/
def Meterable (p : Provider) (policy : Policy) (response : CompletionResponse) (turn : Turn) : Prop :=
  (∃ cost, responseCost p policy.model response = some cost ∧ 0 ≤ cost) ∧
    (Value.object (responsePayload response)).encodable = true ∧
    0 ≤ response.inputTokens ∧ 0 ≤ response.outputTokens ∧ 0 ≤ response.cacheReadTokens ∧
    0 ≤ response.cacheWriteTokens ∧ turn.startedAt ≤ turn.finishedAt

/-- The effect of the call becomes known. -/
def Metered (p : Provider) (policy : Policy) (turn : Turn) : Prop :=
  ∃ response, turn.answer = .returns response ∧ Meterable p policy response turn

/-- The response takes the session over a budget. -/
def Overshoots (policy : Policy) (calls : List CallReceipt) (response : CompletionResponse)
    (cost : ℚ) (turn : Turn) : Prop :=
  (∃ limit ∈ policy.maxTotalTokens, limit < (calls.map callTokens).sum +
    (response.inputTokens.toNat + response.outputTokens.toNat + response.cacheReadTokens.toNat +
      response.cacheWriteTokens.toNat)) ∨
  (∃ limit ∈ policy.maxCostUsd, limit < (calls.map (·.costUsd)).sum + cost) ∨
  policy.timeoutSeconds < turn.finishedAt - turn.startedAt + turn.elapsedSeconds

/-- The call is the last one of its session: its effect stays unknown, its response is not delivered,
or it overshoots. -/
def CallEnds (p : Provider) (policy : Policy) (calls : List CallReceipt) (turn : Turn) : Prop :=
  ¬ Metered p policy turn ∨ turn.delivered = false ∨
    ∃ response cost, turn.answer = .returns response ∧
      responseCost p policy.model response = some cost ∧ Overshoots policy calls response cost turn

/-- No exception leaves the broker after the client was called: the client does not end the process,
the request has a JSON text, and where the effect stays unknown the clock did not go back. -/
structure CallAccountable (p : Provider) (policy : Policy) (admitted : AdmittedCall) (turn : Turn) :
    Prop where
  alive : turn.answer ≠ .aborts
  encodable : (Value.object admitted.request).encodable = true
  fallback : ¬ Metered p policy turn → turn.startedAt ≤ turn.recordedAt

variable {calls : List CallReceipt} {admitted : AdmittedCall} {turn : Turn}

/-- What a call that is recorded says. -/
structure Records (p : Provider) (calls : List CallReceipt) (admitted : AdmittedCall) (trace : Trace)
    (callIndex : ℕ) : Prop where
  trace_eq : trace = ⟨admitted.callPlane, admitted.operation, p.sha256 (.object admitted.request)⟩
  index_eq : callIndex = calls.length + 1

variable {response : CompletionResponse} {call : CallReceipt}

lemma buildCall_eq_some {cost : ℚ} {requestSha256 : String} {responseSha256 : String}
    (h : buildCall policy calls admitted response cost requestSha256 responseSha256 turn =
      some call) :
    call.trace = ⟨admitted.callPlane, admitted.operation, requestSha256⟩ ∧
      call.callIndex = calls.length + 1 := by
  unfold buildCall at h
  split at h
  · cases h
    exact ⟨rfl, rfl⟩
  · cases h

lemma responseBudgetFailure_ne_none {cost : ℚ} {requestSha256 responseSha256 : String}
    (h : buildCall policy calls admitted response cost requestSha256 responseSha256 turn =
      some call) :
    responseBudgetFailure policy calls call turn.elapsedSeconds ≠ none ↔
      Overshoots policy calls response cost turn := by
  unfold buildCall at h
  split at h
  · cases h
    unfold responseBudgetFailure Overshoots callTokens
    split_ifs with h₁ h₂ h₃ <;> simp_all
  · cases h

/-- The outcome of a call whose effect is known. -/
structure CallOutcome.Known (outcome : CallOutcome) (p : Provider) (policy : Policy)
    (calls : List CallReceipt) (admitted : AdmittedCall) (turn : Turn) (call : CallReceipt) :
    Prop where
  call_eq : outcome.call = some call
  unknown_eq : outcome.effectUnknownCall = none
  records : Records p calls admitted call.trace call.callIndex
  failure : outcome.terminalFailure = responseBudgetFailure policy calls call turn.elapsedSeconds
  overshoots : responseBudgetFailure policy calls call turn.elapsedSeconds ≠ none ↔
    ∃ response cost, turn.answer = .returns response ∧
      responseCost p policy.model response = some cost ∧ Overshoots policy calls response cost turn

/-- The outcome of a call whose effect is unknown. -/
structure CallOutcome.Unknown (outcome : CallOutcome) (p : Provider) (calls : List CallReceipt)
    (admitted : AdmittedCall) (call : UnknownReceipt) : Prop where
  call_eq : outcome.call = none
  unknown_eq : outcome.effectUnknownCall = some call
  records : Records p calls admitted call.trace call.callIndex
  failure : outcome.terminalFailure = some "provider broker effect outcome is unknown"

variable {outcome : CallOutcome}

lemma meteredCallOutcome_some (hanswer : turn.answer = .returns response)
    (h : meteredCallOutcome p policy calls admitted response turn = some outcome) :
    ∃ call, outcome.Known p policy calls admitted turn call := by
  unfold meteredCallOutcome at h
  simp only [Option.bind_eq_bind, Option.bind_eq_some_iff] at h
  obtain ⟨cost, hcost, requestSha256, hrequest, responseSha256, -, call, hcall, h⟩ := h
  obtain ⟨htrace, hindex⟩ := buildCall_eq_some hcall
  have hsha : requestSha256 = p.sha256 (.object admitted.request) := by
    unfold canonicalJsonSha256 at hrequest
    split at hrequest
    · cases hrequest
      rfl
    · cases hrequest
  subst hsha
  have hovershoots : responseBudgetFailure policy calls call turn.elapsedSeconds ≠ none ↔
      ∃ response cost, turn.answer = .returns response ∧
        responseCost p policy.model response = some cost ∧
        Overshoots policy calls response cost turn := by
    rw [responseBudgetFailure_ne_none hcall]
    constructor
    · exact fun hover => ⟨response, cost, hanswer, hcost, hover⟩
    · rintro ⟨response', cost', hanswer', hcost', hover⟩
      rw [hanswer] at hanswer'
      cases hanswer'
      rw [hcost] at hcost'
      cases hcost'
      exact hover
  split at h
  · rename_i reason hfatal
    cases h
    exact ⟨call, rfl, rfl, ⟨htrace, hindex⟩, hfatal.symm, hovershoots⟩
  · rename_i hfatal
    cases h
    exact ⟨call, rfl, rfl, ⟨htrace, hindex⟩, hfatal.symm, hovershoots⟩

lemma meteredCallOutcome_isSome :
    (meteredCallOutcome p policy calls admitted response turn).isSome = true ↔
      (Value.object admitted.request).encodable = true ∧ Meterable p policy response turn := by
  unfold meteredCallOutcome Meterable canonicalJsonSha256 buildCall
  constructor
  · intro h
    rw [Option.isSome_iff_exists] at h
    obtain ⟨outcome, h⟩ := h
    simp only [Option.bind_eq_bind, Option.bind_eq_some_iff] at h
    obtain ⟨cost, hcost, _, hrequest, _, hresponse, call, hcall, -⟩ := h
    split at hrequest
    · rename_i hencodable
      split at hresponse
      · rename_i hpayload
        split at hcall
        · rename_i hfields
          obtain ⟨h₁, h₂, h₃, h₄, h₅, h₆⟩ := hfields
          exact ⟨hencodable, ⟨cost, hcost, h₅⟩, hpayload, h₁, h₂, h₃, h₄, h₆⟩
        · cases hcall
      · cases hresponse
    · cases hrequest
  · rintro ⟨hencodable, ⟨cost, hcost, h₅⟩, hpayload, h₁, h₂, h₃, h₄, h₆⟩
    simp only [hcost, hencodable, hpayload, if_true, Option.bind_eq_bind, Option.bind_some,
      dif_pos (⟨h₁, h₂, h₃, h₄, h₅, h₆⟩ : _ ∧ _ ∧ _ ∧ _ ∧ _ ∧ _)]
    split <;> rfl

lemma effectUnknownOutcome_some
    (h : effectUnknownOutcome p policy calls admitted turn = some outcome) :
    ∃ call, outcome.Unknown p calls admitted call := by
  unfold effectUnknownOutcome canonicalJsonSha256 at h
  simp only [Option.bind_eq_bind, Option.bind_eq_some_iff] at h
  obtain ⟨requestSha256, hrequest, h⟩ := h
  split at hrequest
  · cases hrequest
    split at h
    · cases h
      exact ⟨_, rfl, rfl, ⟨rfl, rfl⟩, rfl⟩
    · cases h
  · cases hrequest

lemma effectUnknownOutcome_isSome :
    (effectUnknownOutcome p policy calls admitted turn).isSome = true ↔
      (Value.object admitted.request).encodable = true ∧ turn.startedAt ≤ turn.recordedAt := by
  unfold effectUnknownOutcome canonicalJsonSha256
  by_cases hencodable : (Value.object admitted.request).encodable = true
  · by_cases hclock : turn.startedAt ≤ turn.recordedAt
    · simp [hencodable, hclock]
    · simp [hencodable, hclock]
  · simp [hencodable]

/-- **A started call has an outcome** exactly if it is accountable. -/
lemma executeAdmittedCall_isSome (calls : List CallReceipt) :
    (executeAdmittedCall p policy calls admitted turn).isSome = true ↔
      CallAccountable p policy admitted turn := by
  unfold executeAdmittedCall
  have hother : ∀ answer, turn.answer = answer → (∀ response, answer ≠ .returns response) →
      ¬ Metered p policy turn := by
    rintro answer hanswer hreturns ⟨response, hresponse, -⟩
    exact hreturns response (hanswer ▸ hresponse)
  cases hanswer : turn.answer with
  | returns response =>
    have hmetered : Metered p policy turn ↔ Meterable p policy response turn := by
      constructor
      · rintro ⟨response', hresponse, hmeterable⟩
        rw [hanswer] at hresponse
        cases hresponse
        exact hmeterable
      · exact fun hmeterable => ⟨response, hanswer, hmeterable⟩
    simp only [Option.orElse_eq_orElse, Option.orElse_eq_or, Option.isSome_or, Bool.or_eq_true,
      meteredCallOutcome_isSome, effectUnknownOutcome_isSome]
    constructor
    · intro h
      refine ⟨by simp [hanswer], ?_, fun hnot => ?_⟩
      · obtain h | h := h
        · exact h.1
        · exact h.1
      · obtain h | h := h
        · exact absurd (hmetered.mpr h.2) hnot
        · exact h.2
    · rintro ⟨-, hencodable, hfallback⟩
      by_cases hmeterable : Meterable p policy response turn
      · exact .inl ⟨hencodable, hmeterable⟩
      · exact .inr ⟨hencodable, hfallback fun h => hmeterable (hmetered.mp h)⟩
  | malformed | raises =>
    rw [effectUnknownOutcome_isSome]
    have hnot := hother _ hanswer (by simp)
    exact ⟨fun h => ⟨by simp [hanswer], h.1, fun _ => h.2⟩, fun h => ⟨h.encodable, h.fallback hnot⟩⟩
  | aborts => exact ⟨fun h => by simp at h, fun h => absurd hanswer h.alive⟩

/-- What a started call records: the call, or an unknown effect that ends the session. -/
lemma executeAdmittedCall_some
    (h : executeAdmittedCall p policy calls admitted turn = some outcome) :
    (Metered p policy turn ∧ ∃ call, outcome.Known p policy calls admitted turn call) ∨
      (¬ Metered p policy turn ∧ ∃ call, outcome.Unknown p calls admitted call) := by
  have haccountable : CallAccountable p policy admitted turn := by
    rw [← executeAdmittedCall_isSome calls, h]
    rfl
  have hmetered : ∀ response, turn.answer = .returns response →
      (Metered p policy turn ↔
        (meteredCallOutcome p policy calls admitted response turn).isSome = true) := by
    intro response hanswer
    rw [meteredCallOutcome_isSome]
    constructor
    · rintro ⟨response', hanswer', hmeterable⟩
      rw [hanswer] at hanswer'
      cases hanswer'
      exact ⟨haccountable.encodable, hmeterable⟩
    · exact fun h => ⟨response, hanswer, h.2⟩
  unfold executeAdmittedCall at h
  split at h
  · rename_i response hanswer
    simp only [Option.orElse_eq_orElse, Option.orElse_eq_or, Option.or_eq_some_iff] at h
    obtain h | ⟨hnone, h⟩ := h
    · refine .inl ⟨(hmetered response hanswer).mpr (by rw [h]; rfl), ?_⟩
      exact meteredCallOutcome_some hanswer h
    · refine .inr ⟨fun hm => ?_, effectUnknownOutcome_some h⟩
      rw [hmetered response hanswer, hnone] at hm
      cases hm
  · rename_i hanswer
    refine .inr ⟨?_, effectUnknownOutcome_some h⟩
    rintro ⟨response, hanswer', -⟩
    rw [hanswer] at hanswer'
    cases hanswer'
  · rename_i hanswer
    refine .inr ⟨?_, effectUnknownOutcome_some h⟩
    rintro ⟨response, hanswer', -⟩
    rw [hanswer] at hanswer'
    cases hanswer'
  · cases h

/-! ## Admission -/

/-- An outcome that denies a request: nothing is recorded but the denial. -/
structure CallOutcome.Denial (outcome : CallOutcome) : Prop where
  call : outcome.call = none
  unknown : outcome.effectUnknownCall = none
  denied : outcome.deniedReason ≠ none

lemma denial_deniedOutcome (reason : String) (terminalFailure : Option String) :
    (deniedOutcome reason terminalFailure).Denial :=
  ⟨rfl, rfl, by simp [deniedOutcome]⟩

variable {elapsedSeconds : ℚ}

lemma callBudgetRejection_inTime {callPlane : CallPlane} {reason : String}
    (htime : elapsedSeconds < policy.timeoutSeconds)
    (h : callBudgetRejection policy calls callPlane elapsedSeconds = some reason) :
    reason ≠ "provider broker time budget exhausted" := by
  unfold callBudgetRejection at h
  rw [if_neg (not_le.mpr htime)] at h
  split_ifs at h <;> cases h
  · decide
  · cases callPlane <;> decide
  · decide
  · decide

lemma decodeAdmittedCall_eq_ok {request : Object} {operation : Method} {callPlane : CallPlane}
    {admitted : AdmittedCall}
    (h : decodeAdmittedCall request operation callPlane = .ok admitted) :
    admitted.request = request ∧ admitted.callPlane = callPlane := by
  unfold decodeAdmittedCall at h
  simp only [Validation.bind_eq_ok] at h
  obtain ⟨messages, -, systemPrompt, -, h⟩ := h
  cases operation with
  | generate | generateWithTools =>
    simp only [Validation.bind_eq_ok, Validation.pure_eq_ok] at h
    obtain ⟨arguments, -, rfl⟩ := h
    exact ⟨rfl, rfl⟩

/-- What admission returns: the outcome of a denial, which in time does not end the session, or the
call as it was requested, within the budgets. -/
lemma admitCall_eq_ok {request : Object} {admission : CallOutcome ⊕ AdmittedCall}
    (h : admitCall policy calls elapsedSeconds request = .ok admission) :
    (∃ outcome, admission = .inl outcome ∧ outcome.Denial ∧
      (elapsedSeconds < policy.timeoutSeconds → outcome.terminalFailure = none)) ∨
    ∃ admitted, admission = .inr admitted ∧ admitted.request = request ∧
      callBudgetRejection policy calls admitted.callPlane elapsedSeconds = none := by
  unfold admitCall at h
  cases hoperation : operationOf request with
  | error e =>
    rw [hoperation] at h
    cases h
  | ok operation? =>
    rw [hoperation] at h
    simp only [Validation.ok_bind] at h
    cases operation? with
    | none =>
      cases h
      exact .inl ⟨_, rfl, denial_deniedOutcome _ _, fun _ => rfl⟩
    | some operation =>
      dsimp only at h
      split at h
      · cases h
        exact .inl ⟨_, rfl, denial_deniedOutcome _ _, fun _ => rfl⟩
      · split at h
        · cases h
          exact .inl ⟨_, rfl, denial_deniedOutcome _ _, fun _ => rfl⟩
        · split at h
          · cases h
            exact .inl ⟨_, rfl, denial_deniedOutcome _ _, fun _ => rfl⟩
          · rename_i callPlane hplane
            split at h
            · rename_i reason hreason
              cases h
              refine .inl ⟨_, rfl, denial_deniedOutcome _ _, fun htime => ?_⟩
              simp [deniedOutcome, callBudgetRejection_inTime htime hreason]
            · rename_i hbudget
              rw [Validation.bind_eq_ok] at h
              obtain ⟨admitted, hdecode, h⟩ := h
              cases h
              obtain ⟨hrequest, hcallPlane⟩ := decodeAdmittedCall_eq_ok hdecode
              exact .inr ⟨admitted, rfl, hrequest, by rw [hcallPlane]; exact hbudget⟩

/-! ## Settling -/

section Settling

variable {session : Session} {outcome : CallOutcome}

lemma fail_eq (reason : String) :
    session.fail reason =
      { session with terminalFailure := session.terminalFailure.or (some reason) } := by
  obtain ⟨startedAt, calls, effectUnknownCalls, deniedCalls, terminalFailure⟩ := session
  cases terminalFailure <;> rfl

lemma apply_eq :
    session.apply outcome =
      { session with
        calls := session.calls ++ outcome.call.toList
        effectUnknownCalls := session.effectUnknownCalls ++ outcome.effectUnknownCall.toList
        deniedCalls := session.deniedCalls + outcome.deniedReason.toList.length
        terminalFailure := session.terminalFailure.or outcome.terminalFailure } := by
  unfold Session.apply
  cases hdenied : outcome.deniedReason <;> cases hterminal : outcome.terminalFailure <;>
    simp [fail_eq, Session.deny]

lemma settle_eq :
    session.settle outcome turn =
      { session with
        calls := session.calls ++ outcome.call.toList
        effectUnknownCalls := session.effectUnknownCalls ++ outcome.effectUnknownCall.toList
        deniedCalls := session.deniedCalls + outcome.deniedReason.toList.length
        terminalFailure := (session.terminalFailure.or outcome.terminalFailure).or
          (if !turn.delivered && outcome.call.isSome then
            some "provider broker response transport failed after provider effect" else none) } := by
  unfold Session.settle
  by_cases hlost : (!turn.delivered && outcome.call.isSome) = true
  · simp only [hlost, if_true, fail_eq, apply_eq]
  · simp only [hlost, apply_eq]
    simp

end Settling

lemma responseBudgetFailure_visible {reason : String}
    (h : responseBudgetFailure policy calls call elapsedSeconds = some reason) :
    ¬ Blank reason := by
  unfold responseBudgetFailure at h
  split_ifs at h <;> cases h <;> decide

lemma settle_denial {session : Session} (h : outcome.Denial)
    (hgoes : outcome.terminalFailure = none) (turn : Turn) :
    session.settle outcome turn = { session with deniedCalls := session.deniedCalls + 1 } := by
  obtain ⟨reason, hreason⟩ := Option.ne_none_iff_exists'.mp h.denied
  rw [settle_eq]
  simp [h.call, h.unknown, hreason, hgoes]

end AecBench.ProviderBroker
