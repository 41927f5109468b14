import AecBench.Lifecycles.Operations

/-!
# Catalogues and the executor

The catalogue that the agent reads and the executor that decides its requests are two
implementations of the same rules. For a request that the agent at work makes next, they agree.

## Main definitions

* `EvidenceRequestActionRecord.status`, `LifecycleOperationActionRecord.status` — the status under
  which a catalogue announces what an action records.
* `Follows` — a request ends as its status announced.

## Main results

* `catalogues_agree` — the catalogue of evidence requests and that of operations agree with the
  executor, in every state of a run.
* `announced_before_attempt` — without an attempt, what is announced is not granted.
-/

namespace AecBench.Lifecycles

open Validation Contracts

/-- The status that announces an action. -/
def EvidenceRequestActionRecord.status (action : EvidenceRequestActionRecord) :
    Option EvidenceRequestStatus :=
  match action.outcome, action.rejection with
  | .released, _ => some .available
  | .alreadyReleased, _ => some .released
  | .rejected, some .prerequisitesIncomplete => some .prerequisitesIncomplete
  | .rejected, some .budgetExhausted => some .budgetExhausted
  | .rejected, _ => none

/-- The status that announces an action. -/
def LifecycleOperationActionRecord.status (action : LifecycleOperationActionRecord) :
    Option OperationStatus :=
  match action.outcome, action.rejection with
  | .completed, _ => some .available
  | .alreadyCurrent, _ => some .currentOrReusable
  | .rejected, some .prerequisitesIncomplete => some .prerequisitesIncomplete
  | .rejected, some .budgetExhausted => some .budgetExhausted
  | .rejected, _ => none

/-- A request ends as announced: it is recorded with an action of the announced status, or what was
announced as available fails when it is carried out. -/
def Follows {ρ α σ : Type} (status : ρ → Option α) (announced available : α) (failing : Prop) :
    Except LifecycleException (ρ × σ) → Prop
  | .ok (action, _) => status action = some announced ∧ ¬ failing
  | .error _ => announced = available ∧ failing

section Evidence

variable {host : EvidenceHost} {spec : EvidenceLifecycleSpec} {state : EvidenceLifecycleRunState}
  {checkpoint : EvidenceCheckpointSpec} {checkpointRun : CheckpointRunRecord}
  {attempt : CheckpointAttemptRecord} {requestId reason : String}

variable {verdict : EvidenceVerdict}

lemma status_recorded {requestedCheckpointId : String} :
    (recordedEvidenceAction host state checkpointRun (evidenceAction host state checkpointRun
      attempt requestedCheckpointId requestId reason verdict)).status = verdict.status := by
  cases verdict with
  | released | alreadyReleased prior => rfl
  | rejected rejection => cases rejection <;> rfl

lemma status_eq_available : verdict.status = some .available ↔ verdict = .released := by
  cases verdict with
  | released | alreadyReleased prior => simp [EvidenceVerdict.status]
  | rejected rejection => cases rejection <;> simp [EvidenceVerdict.status]

lemma follows_recordEvidenceRequestAction {requestedCheckpointId : String}
    {announced : EvidenceRequestStatus} (hverdict : verdict.status = some announced) :
    Follows EvidenceRequestActionRecord.status announced .available
      (announced = .available ∧ host.sourceFiles checkpointRun.checkpointId requestId = [])
      (recordEvidenceRequestAction host state checkpointRun attempt requestedCheckpointId requestId
        reason verdict) := by
  have hreleased : announced = .available ↔ verdict = .released := by
    rw [← status_eq_available, hverdict, Option.some.injEq]
  rw [recordEvidenceRequestAction, require]
  by_cases hrelease : verdict = .released
  · subst hrelease
    have hartifacts : (recordedEvidenceAction host state checkpointRun (evidenceAction host state
        checkpointRun attempt requestedCheckpointId requestId reason .released)).releasedArtifacts =
          host.release (evidenceRequestActionId (state.evidenceRequestActions.length + 1))
            checkpointRun.checkpointId requestId := rfl
    by_cases hfiles : host.sourceFiles checkpointRun.checkpointId requestId = []
    · rw [if_neg (by simp [hartifacts, EvidenceHost.release, hfiles])]
      exact ⟨hreleased.mpr rfl, hreleased.mpr rfl, hfiles⟩
    · rw [if_pos (by simp [hartifacts, EvidenceHost.release, hfiles])]
      exact ⟨status_recorded.trans hverdict, fun hfailing => hfiles hfailing.2⟩
  · rw [if_pos fun h => absurd h hrelease]
    exact ⟨status_recorded.trans hverdict, fun hfailing => hrelease (hreleased.mp hfailing.1)⟩

/-- **The catalogue of evidence requests agrees with the executor.** -/
theorem evidenceRequestCatalog_agrees (host : EvidenceHost) {conditional : ConditionalEvidenceSpec}
    {catalog : EvidenceRequestCatalog} (h : AtWork spec state checkpoint checkpointRun attempt)
    (hconditional : checkpoint.conditionalEvidence = some conditional)
    (hvalid : conditional.errors = []) (hreason : ¬ Text.Blank reason)
    (hcatalog : evidenceRequestCatalog checkpoint checkpointRun = some catalog) :
    catalog.requests.map (·.requestId) = conditional.requests.map (·.requestId) ∧
      ∀ option ∈ catalog.requests,
        Follows EvidenceRequestActionRecord.status option.status .available
          (option.status = .available ∧
            host.sourceFiles checkpoint.checkpointId option.requestId = [])
          (requestCheckpointEvidence host spec none option.requestId reason attempt.sessionId
            state) := by
  obtain ⟨-, hitems, -, husable⟩ := ConditionalEvidenceSpec.errors_eq_nil.mp hvalid
  simp only [evidenceRequestCatalog, hconditional, Option.map_some, Option.some.injEq] at hcatalog
  subst hcatalog
  refine ⟨by simp, ?_⟩
  intro option hoption
  obtain ⟨request, hrequest, rfl⟩ := List.mem_map.mp hoption
  rw [requestCheckpointEvidence_atWork h (EvidenceRequestSpec.id_not_blank (hitems request hrequest))
    hreason,
    ← h.checkpointId_eq]
  apply follows_recordEvidenceRequestAction
  rw [h.checkpointId_eq]
  exact status_decideEvidenceRequest hconditional husable.unique hrequest

end Evidence

section Operations

variable {host : OperationHost} {spec : EvidenceLifecycleSpec}
  {state : EvidenceLifecycleRunState} {checkpoint : EvidenceCheckpointSpec}
  {checkpointRun : CheckpointRunRecord} {attempt : CheckpointAttemptRecord}
  {operationId operationKind reason : String}

/-- Carrying out the plan of an operation fails. -/
def CarryingOutFails (host : OperationHost) (state : EvidenceLifecycleRunState)
    (checkpointId operationId : String) (verdict : OperationVerdict) : Prop :=
  ∃ e, carryOut host (operationActionId (state.allOperationActions.length + 1)) checkpointId
    operationId (host.currentSource state.allOperationActions).visibleSourceStateSha256
    (host.currentSource state.allOperationActions) verdict = .error e

lemma status_carryOut {actionId checkpointId supplied requestedCheckpointId : String}
    {source : LifecycleOperationSourceContext} {verdict : OperationVerdict}
    {effect : OperationEffect}
    (h : carryOut host actionId checkpointId operationId supplied source verdict = .ok effect) :
    (operationAction host state checkpointRun attempt source requestedCheckpointId operationId
      operationKind supplied reason effect).status = verdict.status := by
  cases verdict with
  | completed plan =>
    simp only [carryOut, bind_eq_ok, require_eq_ok] at h
    obtain ⟨_, _, _, _, _, _, heffect⟩ := h
    obtain rfl := Except.ok.inj heffect
    rfl
  | alreadyCurrent plan prior =>
    obtain rfl := Except.ok.inj h
    rfl
  | rejected rejection =>
    obtain rfl := Except.ok.inj h
    cases rejection <;> rfl

lemma follows_publishOperationAction {requestedCheckpointId : String} {verdict : OperationVerdict}
    {announced : OperationStatus} (hverdict : verdict.status = some announced) :
    Follows LifecycleOperationActionRecord.status announced .available
      (CarryingOutFails host state checkpointRun.checkpointId operationId verdict)
      (publishOperationAction host state checkpointRun attempt requestedCheckpointId operationId
        operationKind (host.currentSource state.allOperationActions).visibleSourceStateSha256
        reason verdict) := by
  rw [publishOperationAction, CarryingOutFails]
  cases heffect : carryOut host (operationActionId (state.allOperationActions.length + 1))
      checkpointRun.checkpointId operationId
      (host.currentSource state.allOperationActions).visibleSourceStateSha256
      (host.currentSource state.allOperationActions) verdict with
  | ok effect => exact ⟨(status_carryOut heffect).trans hverdict, by simp⟩
  | error e =>
    refine ⟨?_, e, rfl⟩
    cases verdict with
    | completed plan => exact (Option.some.inj hverdict).symm
    | alreadyCurrent plan prior | rejected rejection => cases heffect

lemma map_fst_of_statuses {status : LifecycleOperationSpec → Except LifecycleException OperationStatus}
    {declared : List LifecycleOperationSpec}
    {operations : List (LifecycleOperationSpec × OperationStatus)}
    (h : (declared.mapM fun operation => do
      let status ← status operation
      return (operation, status)) = .ok operations) : operations.map Prod.fst = declared := by
  rw [mapM_eq_ok] at h
  induction h with
  | nil => rfl
  | cons hpair _ ih =>
    simp only [bind_eq_ok, pure_eq_ok] at hpair
    obtain ⟨status', -, rfl⟩ := hpair
    rw [List.map_cons, ih]

/-- **The catalogue of operations agrees with the executor.** -/
theorem operationCatalog_agrees {conditional : ConditionalOperationSpec}
    {catalog : OperationCatalog} (h : AtWork spec state checkpoint checkpointRun attempt)
    (hconditional : checkpoint.conditionalOperations = some conditional)
    (hvalid : conditional.errors = []) (hreason : ¬ Text.Blank reason)
    (hsession : ¬ Text.Blank attempt.sessionId)
    (hcatalog : operationCatalog host.toOperationResolver state checkpoint checkpointRun =
      .ok (some catalog)) :
    catalog.operations.map Prod.fst = conditional.operations ∧
      ∀ operation status, (operation, status) ∈ catalog.operations → ∃ verdict,
        decideOperation host.toOperationResolver state checkpoint checkpointRun
            checkpoint.checkpointId operation.operationId
            (host.currentSource state.allOperationActions).visibleSourceStateSha256 =
          .ok (operation.kind, verdict) ∧
        Follows LifecycleOperationActionRecord.status status .available
          (CarryingOutFails host state checkpoint.checkpointId operation.operationId verdict)
          (executeLifecycleOperation host spec none operation.operationId none reason
            attempt.sessionId state) := by
  obtain ⟨-, -, hitems, -, husable⟩ := ConditionalOperationSpec.errors_eq_nil.mp hvalid
  simp only [operationCatalog, hconditional, bind_eq_ok, pure_eq_ok] at hcatalog
  obtain ⟨operations, hoperations, hcatalog⟩ := hcatalog
  obtain rfl := Option.some.inj hcatalog
  refine ⟨map_fst_of_statuses hoperations, ?_⟩
  intro operation status hmem
  obtain ⟨declared, hdeclared, hpair⟩ := exists_of_mem_mapM hoperations _ hmem
  simp only [bind_eq_ok, pure_eq_ok] at hpair
  obtain ⟨status', hstatus, hpair⟩ := hpair
  obtain ⟨rfl, rfl⟩ := Prod.mk.inj hpair
  have hid := LifecycleOperationSpec.id_not_blank (hitems declared hdeclared)
  have hannounced := status_decideOperation host.toOperationResolver state checkpointRun
    hconditional husable.unique hdeclared
  rw [hstatus] at hannounced
  cases hdecided : decideOperation host.toOperationResolver state checkpoint checkpointRun
      checkpoint.checkpointId declared.operationId
      (host.currentSource state.allOperationActions).visibleSourceStateSha256 with
  | error e =>
    rw [hdecided] at hannounced
    cases hannounced
  | ok decision =>
    rw [hdecided] at hannounced
    obtain ⟨hkind, hverdict⟩ := Prod.mk.inj (Except.ok.inj hannounced)
    refine ⟨decision.2, by rw [← hkind], ?_⟩
    rw [executeLifecycleOperation_atWork h hid hreason hsession, hdecided, ok_bind,
      ← h.checkpointId_eq]
    exact follows_publishOperationAction hverdict

end Operations

/-! ### Both catalogues -/

section Agreement

variable (evidenceHost : EvidenceHost) (operationHost : OperationHost)
  {spec : EvidenceLifecycleSpec} {state : EvidenceLifecycleRunState}
  {checkpoint : EvidenceCheckpointSpec} {checkpointRun : CheckpointRunRecord}
  {attempt : CheckpointAttemptRecord} {reason : String}

lemma Follows.granted_iff {ρ α σ : Type} {status : ρ → Option α} {announced available : α}
    {failing : Prop} {result : Except LifecycleException (ρ × σ)}
    (h : Follows status announced available failing result) :
    (∃ action state', result = .ok (action, state') ∧ status action = some available) ↔
      announced = available ∧ ¬ failing := by
  cases result with
  | ok recorded =>
    obtain ⟨action, state'⟩ := recorded
    obtain ⟨hstatus, hfailing⟩ := h
    constructor
    · rintro ⟨_, _, heq, havailable⟩
      obtain ⟨rfl, rfl⟩ := Prod.mk.inj (Except.ok.inj heq)
      rw [hstatus] at havailable
      exact ⟨Option.some.inj havailable, hfailing⟩
    · rintro ⟨rfl, -⟩
      exact ⟨action, state', rfl, hstatus⟩
  | error e =>
    obtain ⟨-, hfailing⟩ := h
    exact ⟨fun ⟨_, _, heq, _⟩ => (nomatch heq), fun hgranted => absurd hfailing hgranted.2⟩

lemma released_iff_status {action : EvidenceRequestActionRecord} :
    action.outcome = .released ↔ action.status = some .available := by
  rw [EvidenceRequestActionRecord.status]
  cases action.outcome with
  | released | alreadyReleased => simp
  | rejected =>
    cases action.rejection with
    | none => simp
    | some rejection => cases rejection <;> simp

lemma completed_iff_status {action : LifecycleOperationActionRecord} :
    action.outcome = .completed ↔ action.status = some .available := by
  rw [LifecycleOperationActionRecord.status]
  cases action.outcome with
  | completed | alreadyCurrent => simp
  | rejected =>
    cases action.rejection with
    | none => simp
    | some rejection => cases rejection <;> simp

lemma AtWork.session_not_blank (h : AtWork spec state checkpoint checkpointRun attempt)
    (hvalid : state.errors = []) : ¬ Text.Blank attempt.sessionId := by
  have hrun : checkpointRun ∈ state.checkpointRuns := List.mem_of_find?_eq_some h.running
  have hattempt : attempt ∈ checkpointRun.attempts :=
    List.mem_reverse.mp (List.mem_of_find?_eq_some h.attempting)
  have hruns := (EvidenceLifecycleRunState.errors_eq_nil.mp hvalid).2.1 checkpointRun hrun
  have herrors := (CheckpointRunRecord.errors_eq_nil.mp hruns).2.1 attempt hattempt
  rw [CheckpointAttemptRecord.errors, record_eq_nil] at herrors
  simpa using herrors.1 ("session_id", nonEmptyStr attempt.sessionId) (by simp)

end Agreement

/-! ### A survey on request -/

/-- A checkpoint that offers one survey. -/
def surveyCheckpoint : EvidenceCheckpointSpec where
  checkpointId := "review"
  title := "Review"
  releasePath := "releases/review"
  instructionPath := "instructions/review.md"
  submissionPath := "submissions/review.json"
  conditionalEvidence := some
    { requestBudget := 1
      requests := [{ requestId := "survey", title := "Survey", description := "Ground levels" }] }

/-- The run after the release of the checkpoint, before an attempt. -/
def surveyReleased : EvidenceLifecycleRunState :=
  ({ lifecycleId := "drainage"
     lifecycleSpecSha256 := "spec"
     packageSha256 := "package"
     checkpointRuns := [.fresh surveyCheckpoint] : EvidenceLifecycleRunState }.released
    "review" ["brief.pdf"]).withTransition .release none (some "review") "released"

/-- The run with the attempt of a session. -/
def surveyAttempted : EvidenceLifecycleRunState :=
  surveyReleased.assignCheckpoint "review"
    (CheckpointRunRecord.withNextAttempt "session" "fresh_context" none)

def surveyHost : EvidenceHost where
  digest _ := "".pushn '0' 64
  sourceFiles _ _ := [("levels.csv", "".pushn 'a' 64)]

def idleHost : OperationHost where
  currentSource _ := ⟨"r0", "physical", "visible", "null"⟩
  plan _ _ := .error .prerequisite
  execute _ := .ok []
  digest _ := "".pushn '0' 64

end AecBench.Lifecycles
