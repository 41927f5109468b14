import AecBench.Contracts.DependencyGraphs
import AecBench.Lifecycles.Reducer

/-!
# Evidence requests of a running checkpoint

The agent at an active checkpoint sees a catalogue of the evidence requests it may make, and makes
them one by one. Every request is decided against the actions recorded before it, and is recorded
itself, whether it is granted or not.

## Main definitions

* `evidenceRequestCatalog` — the catalogue, with the status of every declared request.
* `decideEvidenceRequest` — the verdict on a request; `requestCheckpointEvidence` — the request with
  its checks and its record.

## Main results

* `requestCheckpointEvidence_atWork` — a request of the session at work is recorded under its
  verdict.
* `status_decideEvidenceRequest` — the verdict on a declared request is the one its status in the
  catalogue announces.

## Implementation notes

* The files of a package and the digest of a state come from `EvidenceHost`. A state that is
  written is the state that the next request reads.
-/

namespace AecBench.Lifecycles

open Validation Contracts

/-! ### The catalogue -/

/-- The ids of the requests that were released at the checkpoint. -/
def CheckpointRunRecord.releasedRequestIds (checkpointRun : CheckpointRunRecord) : List String :=
  (checkpointRun.evidenceRequestActions.filter (·.outcome = .released)).map (·.requestId)

inductive EvidenceRequestStatus
  | available
  | released
  | budgetExhausted
  | prerequisitesIncomplete
  deriving DecidableEq

/-- The status of a request in the catalogue. -/
def evidenceRequestStatus (checkpointRun : CheckpointRunRecord) (request : EvidenceRequestSpec) :
    EvidenceRequestStatus :=
  if request.requestId ∈ checkpointRun.releasedRequestIds then .released
  else if ¬ request.prerequisiteRequestIds ⊆ checkpointRun.releasedRequestIds then
    .prerequisitesIncomplete
  else if checkpointRun.evidenceRequestBudgetRemaining = 0 then .budgetExhausted
  else .available

structure EvidenceRequestOption where
  requestId : String
  title : String
  description : String
  prerequisiteRequestIds : List String
  status : EvidenceRequestStatus

structure EvidenceRequestCatalog where
  checkpointId : String
  requestBudget : ℕ
  remainingBudget : ℕ
  requests : List EvidenceRequestOption

/-- `_evidence_request_catalog(checkpoint, checkpoint_run)`. -/
def evidenceRequestCatalog (checkpoint : EvidenceCheckpointSpec)
    (checkpointRun : CheckpointRunRecord) : Option EvidenceRequestCatalog :=
  checkpoint.conditionalEvidence.map fun conditional =>
    { checkpointId := checkpoint.checkpointId
      requestBudget := checkpointRun.evidenceRequestBudget
      remainingBudget := checkpointRun.evidenceRequestBudgetRemaining
      requests := conditional.requests.map fun request =>
        { requestId := request.requestId
          title := request.title
          description := request.description
          prerequisiteRequestIds := request.prerequisiteRequestIds
          status := evidenceRequestStatus checkpointRun request } }

/-! ### The verdict -/

/-- What becomes of a request. -/
inductive EvidenceVerdict
  | released
  | alreadyReleased (prior : EvidenceRequestActionRecord)
  | rejected (rejection : EvidenceRequestRejection)
  deriving DecidableEq

namespace EvidenceVerdict

def outcome : EvidenceVerdict → EvidenceRequestOutcome
  | .released => .released
  | .alreadyReleased _ => .alreadyReleased
  | .rejected _ => .rejected

def rejection : EvidenceVerdict → Option EvidenceRequestRejection
  | .rejected rejection => some rejection
  | _ => none

end EvidenceVerdict

/-- The release of a request that is looked for first. -/
def CheckpointRunRecord.priorRelease (checkpointRun : CheckpointRunRecord) (requestId : String) :
    Option EvidenceRequestActionRecord :=
  checkpointRun.evidenceRequestActions.find? fun action =>
    action.requestId = requestId ∧ action.outcome = .released

/-- The decisions of `_request_checkpoint_evidence_locked`, in their order. -/
def decideEvidenceRequest (checkpoint : EvidenceCheckpointSpec)
    (checkpointRun : CheckpointRunRecord) (requestedCheckpointId requestId : String) :
    EvidenceVerdict :=
  if requestedCheckpointId ≠ checkpoint.checkpointId then .rejected .inactiveCheckpoint
  else
    match checkpoint.conditionalEvidence with
    | none => .rejected .notSupported
    | some conditional =>
      match conditional.requests.find? (·.requestId = requestId) with
      | none => .rejected .unknownRequest
      | some request =>
        match checkpointRun.priorRelease requestId with
        | some prior => .alreadyReleased prior
        | none =>
          if ¬ request.prerequisiteRequestIds ⊆ checkpointRun.releasedRequestIds then
            .rejected .prerequisitesIncomplete
          else if checkpointRun.evidenceRequestBudgetRemaining < 1 then .rejected .budgetExhausted
          else .released

/-! ### The record of a request -/

/-- What `_evidence_request_projection_sha256` hashes. -/
structure EvidenceRequestProjection where
  lifecycleId : String
  packageSha256 : String
  checkpointId : String
  evidenceRequestBudget : ℕ
  evidenceRequestBudgetRemaining : ℕ
  releasedRequests : List (String × List ReleasedEvidenceArtifact × ℕ)

def requestProjection (state : EvidenceLifecycleRunState) (checkpointRun : CheckpointRunRecord) :
    EvidenceRequestProjection where
  lifecycleId := state.lifecycleId
  packageSha256 := state.packageSha256
  checkpointId := checkpointRun.checkpointId
  evidenceRequestBudget := checkpointRun.evidenceRequestBudget
  evidenceRequestBudgetRemaining := checkpointRun.evidenceRequestBudgetRemaining
  releasedRequests :=
    (checkpointRun.evidenceRequestActions.filter (·.outcome = .released)).map fun action =>
      (action.requestId, action.releasedArtifacts, action.budgetAfter)

/-- What the executor takes from outside: the digest of a projection, and the files of a request's
source in the package, with their digests. -/
structure EvidenceHost where
  digest : EvidenceRequestProjection → String
  sourceFiles : String → String → List (String × String)

/-- The artifacts of a request that is released. -/
def EvidenceHost.release (host : EvidenceHost) (actionId checkpointId requestId : String) :
    List ReleasedEvidenceArtifact :=
  (host.sourceFiles checkpointId requestId).map fun (relative, sha256) =>
    { path := "evidence_requests/" ++ actionId ++ "/artifacts/" ++ relative
      workspacePath := "inbox/" ++ checkpointId ++ "/requests/" ++ requestId ++ "/" ++ relative
      sha256 }

/-- The artifacts an action records. -/
def EvidenceHost.artifacts (host : EvidenceHost) (actionId checkpointId requestId : String) :
    EvidenceVerdict → List ReleasedEvidenceArtifact
  | .released => host.release actionId checkpointId requestId
  | .alreadyReleased prior => prior.releasedArtifacts
  | .rejected _ => []

/-- The text of an outcome. -/
def EvidenceRequestOutcome.text : EvidenceRequestOutcome → String
  | .released => "released"
  | .alreadyReleased => "already_released"
  | .rejected => "rejected"

/-- The checkpoint after an action. -/
def CheckpointRunRecord.withEvidenceAction (action : EvidenceRequestActionRecord)
    (checkpointRun : CheckpointRunRecord) : CheckpointRunRecord :=
  { checkpointRun with
    evidenceRequestBudgetRemaining := action.budgetAfter
    evidenceRequestActions := checkpointRun.evidenceRequestActions ++ [action] }

/-- The action of a request, before the digest of the state after it is known. -/
def evidenceAction (host : EvidenceHost) (state : EvidenceLifecycleRunState)
    (checkpointRun : CheckpointRunRecord) (attempt : CheckpointAttemptRecord)
    (requestedCheckpointId requestId reason : String) (verdict : EvidenceVerdict) :
    EvidenceRequestActionRecord :=
  let sequence := state.evidenceRequestActions.length + 1
  let actionId := evidenceRequestActionId sequence
  let budgetConsumed : Fin 2 :=
    if verdict = .released then ⟨1, Nat.one_lt_two⟩ else ⟨0, Nat.two_pos⟩
  { actionId, sequence
    checkpointId := checkpointRun.checkpointId
    requestedCheckpointId, requestId, reason
    sessionId := attempt.sessionId
    attemptId := attempt.attemptId
    outcome := verdict.outcome
    rejection := verdict.rejection
    preActionStateSha256 := host.digest (requestProjection state checkpointRun)
    postActionStateSha256 := "".pushn '0' 64
    releasedArtifacts := host.artifacts actionId checkpointRun.checkpointId requestId verdict
    budgetBefore := checkpointRun.evidenceRequestBudgetRemaining
    budgetConsumed
    budgetAfter := checkpointRun.evidenceRequestBudgetRemaining - budgetConsumed.val }

/-- The action with the digest of the state after it. -/
def recordedEvidenceAction (host : EvidenceHost) (state : EvidenceLifecycleRunState)
    (checkpointRun : CheckpointRunRecord) (action : EvidenceRequestActionRecord) :
    EvidenceRequestActionRecord :=
  { action with
    postActionStateSha256 :=
      host.digest (requestProjection state (checkpointRun.withEvidenceAction action)) }

/-- `_record_evidence_request_action`. -/
def recordEvidenceRequestAction (host : EvidenceHost) (state : EvidenceLifecycleRunState)
    (checkpointRun : CheckpointRunRecord) (attempt : CheckpointAttemptRecord)
    (requestedCheckpointId requestId reason : String) (verdict : EvidenceVerdict) :
    Except LifecycleException (EvidenceRequestActionRecord × EvidenceLifecycleRunState) := do
  let action := recordedEvidenceAction host state checkpointRun
    (evidenceAction host state checkpointRun attempt requestedCheckpointId requestId reason verdict)
  require (verdict = .released → action.releasedArtifacts ≠ [])
    (.evidenceLifecycleError "evidence request source must contain at least one file")
  let updated := state.assignCheckpoint checkpointRun.checkpointId
    (CheckpointRunRecord.withEvidenceAction action)
  return (action, updated.withTransition .evidenceRequest (some checkpointRun.checkpointId)
    (some checkpointRun.checkpointId)
    ("Conditional evidence request " ++ verdict.outcome.text ++ "."))

/-- The value of an option, or an error. -/
def orRaise {α : Type} (value : Option α) (message : String) : Except LifecycleException α :=
  value.elim (.error (.evidenceLifecycleError message)) .ok

/-- `_checkpoint(spec, checkpoint_id)`. -/
def specCheckpoint (spec : EvidenceLifecycleSpec) (checkpointId : String) :
    Except LifecycleException EvidenceCheckpointSpec :=
  orRaise (spec.checkpoints.find? (·.checkpointId = checkpointId))
    ("unknown checkpoint in lifecycle state: " ++ checkpointId)

/-- `request_checkpoint_evidence`: the checks of the caller, the verdict and its record. -/
def requestCheckpointEvidence (host : EvidenceHost) (spec : EvidenceLifecycleSpec)
    (checkpointId : Option String) (requestId reason sessionId : String)
    (state : EvidenceLifecycleRunState) :
    Except LifecycleException (EvidenceRequestActionRecord × EvidenceLifecycleRunState) := do
  require ((∀ id ∈ checkpointId, ¬ Text.Blank id) ∧ ¬ Text.Blank requestId ∧ ¬ Text.Blank reason)
    (.evidenceLifecycleError "evidence request checkpoint, request, and reason must not be blank")
  let requestedCheckpointId ← orRaise (checkpointId <|> state.activeCheckpointId)
    "no checkpoint is awaiting evidence requests"
  let activeCheckpointId ← orRaise state.activeCheckpointId "no checkpoint is active"
  let checkpoint ← specCheckpoint spec activeCheckpointId
  let checkpointRun ← state.checkpoint activeCheckpointId
  let attempt ← orRaise checkpointRun.activeAttempt "no checkpoint attempt is active"
  require (attempt.sessionId = sessionId) (.evidenceLifecycleError
    ("active attempt belongs to " ++ attempt.sessionId ++ "; cannot request evidence from " ++
      sessionId))
  recordEvidenceRequestAction host state checkpointRun attempt requestedCheckpointId requestId
    reason (decideEvidenceRequest checkpoint checkpointRun requestedCheckpointId requestId)

/-! ### Requests against the catalogue -/

/-- The status under which a verdict is announced. -/
def EvidenceVerdict.status : EvidenceVerdict → Option EvidenceRequestStatus
  | .released => some .available
  | .alreadyReleased _ => some .released
  | .rejected .prerequisitesIncomplete => some .prerequisitesIncomplete
  | .rejected .budgetExhausted => some .budgetExhausted
  | .rejected _ => none

section Verdicts

variable {checkpoint : EvidenceCheckpointSpec} {conditional : ConditionalEvidenceSpec}
  {checkpointRun : CheckpointRunRecord} {request : EvidenceRequestSpec}

lemma priorRelease_eq_none {requestId : String} :
    checkpointRun.priorRelease requestId = none ↔
      requestId ∉ checkpointRun.releasedRequestIds := by
  simp only [CheckpointRunRecord.priorRelease, List.find?_eq_none,
    CheckpointRunRecord.releasedRequestIds, List.mem_map, List.mem_filter, decide_eq_true_eq]
  constructor
  · rintro h ⟨action, ⟨hmem, hout⟩, hid⟩
    exact h action hmem ⟨hid, hout⟩
  · rintro h action hmem ⟨hid, hout⟩
    exact h ⟨action, ⟨hmem, hout⟩, hid⟩

lemma find?_request (hunique : conditional.graph.ids.Nodup)
    (hrequest : request ∈ conditional.requests) :
    conditional.requests.find? (·.requestId = request.requestId) = some request := by
  rw [ConditionalEvidenceSpec.graph, Graph.ids, List.map_map] at hunique
  have hkeyed : Table.Keyed (·.requestId) conditional.requests := hunique
  exact hkeyed.lookup_of_mem hrequest

/-- **The verdict on a declared request** is the one that its status announces. -/
theorem status_decideEvidenceRequest (hconditional : checkpoint.conditionalEvidence = some conditional)
    (hunique : conditional.graph.ids.Nodup) (hrequest : request ∈ conditional.requests) :
    (decideEvidenceRequest checkpoint checkpointRun checkpoint.checkpointId
      request.requestId).status = some (evidenceRequestStatus checkpointRun request) := by
  simp only [decideEvidenceRequest, if_neg (not_not_intro rfl), hconditional,
    find?_request hunique hrequest, evidenceRequestStatus]
  cases hprior : checkpointRun.priorRelease request.requestId with
  | some prior =>
    have hreleased : request.requestId ∈ checkpointRun.releasedRequestIds := by
      by_contra hnot
      rw [priorRelease_eq_none.mpr hnot] at hprior
      cases hprior
    rw [if_pos hreleased]
    rfl
  | none =>
    rw [if_neg (priorRelease_eq_none.mp hprior)]
    by_cases hneeded : request.prerequisiteRequestIds ⊆ checkpointRun.releasedRequestIds
    · simp only [if_neg (not_not_intro hneeded)]
      by_cases hbudget : checkpointRun.evidenceRequestBudgetRemaining = 0
      · rw [if_pos (by omega), if_pos hbudget]
        rfl
      · rw [if_neg (by omega), if_neg hbudget]
        rfl
    · simp only [if_pos hneeded]
      rfl

end Verdicts

/-- The session that is at work: its attempt is the active one of the active checkpoint. -/
structure AtWork (spec : EvidenceLifecycleSpec) (state : EvidenceLifecycleRunState)
    (checkpoint : EvidenceCheckpointSpec) (checkpointRun : CheckpointRunRecord)
    (attempt : CheckpointAttemptRecord) : Prop where
  active : state.activeCheckpointId = some checkpoint.checkpointId
  declared : spec.checkpoints.find? (·.checkpointId = checkpoint.checkpointId) = some checkpoint
  running : state.checkpoint? checkpoint.checkpointId = some checkpointRun
  attempting : checkpointRun.activeAttempt = some attempt

variable {state : EvidenceLifecycleRunState} {checkpointRun : CheckpointRunRecord}

lemma EvidenceLifecycleRunState.checkpoint?_assignCheckpoint {checkpointId : String}
    {f : CheckpointRunRecord → CheckpointRunRecord}
    (h : state.checkpoint? checkpointId = some checkpointRun)
    (hf : (f checkpointRun).checkpointId = checkpointRun.checkpointId) :
    (state.assignCheckpoint checkpointId f).checkpoint? checkpointId = some (f checkpointRun) := by
  have hid : checkpointRun.checkpointId = checkpointId := by simpa using List.find?_some h
  exact Table.find?_updateFirst h (by simpa using hf.trans hid)

lemma AtWork.recorded {spec : EvidenceLifecycleSpec} {checkpoint : EvidenceCheckpointSpec}
    {attempt : CheckpointAttemptRecord} (f : CheckpointRunRecord → CheckpointRunRecord)
    (kind : LifecycleTransitionKind) (fromCheckpointId toCheckpointId : Option String)
    (reason : String) (h : AtWork spec state checkpoint checkpointRun attempt)
    (hid : (f checkpointRun).checkpointId = checkpointRun.checkpointId)
    (hattempts : (f checkpointRun).attempts = checkpointRun.attempts) :
    AtWork spec ((state.assignCheckpoint checkpoint.checkpointId f).withTransition kind
      fromCheckpointId toCheckpointId reason) checkpoint (f checkpointRun) attempt where
  active := h.active
  declared := h.declared
  running := EvidenceLifecycleRunState.checkpoint?_assignCheckpoint h.running hid
  attempting := by
    rw [CheckpointRunRecord.activeAttempt, hattempts]
    exact h.attempting

section Request

variable {host : EvidenceHost} {spec : EvidenceLifecycleSpec} {state : EvidenceLifecycleRunState}
  {checkpoint : EvidenceCheckpointSpec} {checkpointRun : CheckpointRunRecord}
  {attempt : CheckpointAttemptRecord} {requestId reason : String}

lemma AtWork.checkpointId_eq (h : AtWork spec state checkpoint checkpointRun attempt) :
    checkpointRun.checkpointId = checkpoint.checkpointId := by
  simpa using List.find?_some h.running

/-- **A request of the session at work** is recorded under its verdict. -/
theorem requestCheckpointEvidence_atWork (h : AtWork spec state checkpoint checkpointRun attempt)
    (hid : ¬ Text.Blank requestId) (hreason : ¬ Text.Blank reason) :
    requestCheckpointEvidence host spec none requestId reason attempt.sessionId state =
      recordEvidenceRequestAction host state checkpointRun attempt checkpoint.checkpointId
        requestId reason
        (decideEvidenceRequest checkpoint checkpointRun checkpoint.checkpointId requestId) := by
  have hcheckpoint : state.checkpoint checkpoint.checkpointId = .ok checkpointRun :=
    EvidenceLifecycleRunState.checkpoint_eq_ok.mpr h.running
  simp only [requestCheckpointEvidence, require, h.active, specCheckpoint, h.declared, hcheckpoint,
    h.attempting, orRaise, Option.elim_some, Option.mem_def, ok_bind, if_pos]
  rw [if_pos ⟨by simp, hid, hreason⟩]
  rfl

end Request

end AecBench.Lifecycles
