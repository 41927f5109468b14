import AecBench.Lib.Validation
import Mathlib.Data.List.Nodup

/-!
# Run states of evidence lifecycles

The durable records of a lifecycle run: the checkpoints with their attempts, the evidence
requests and operations taken at each, the revisits, the transitions and the branch a run comes
from, with the validators of every record.

## Main definitions

* `EvidenceLifecycleRunState`, `CheckpointRunRecord`, `CheckpointAttemptRecord`,
  `EvidenceRequestActionRecord`, `LifecycleOperationActionRecord` — the records.
* `CheckpointRunRecord.validateSubmissionAndAttemptState`,
  `EvidenceLifecycleRunState.validateRunState` — the validators of whole records.
* `EvidenceLifecycleRunState.errors` and its siblings — what validating a record and everything
  in it reports; `CheckpointRunRecord.ownErrors` and `EvidenceLifecycleRunState.ownErrors` are
  what their constructors report, which take the records inside as they are.

## Main results

* `CheckpointRunRecord.errors_eq_nil`, `EvidenceLifecycleRunState.errors_eq_nil` — a record is
  valid when its own validators pass and every record inside is valid.

## Implementation notes

* Budgets and sequence numbers are natural numbers: the fields are `NonNegativeInt` and
  `PositiveInt`.
-/

namespace AecBench.Lifecycles

open Validation

inductive LifecycleRunStatus
  | awaitingEvidenceRelease
  | awaitingCheckpointSubmission
  | complete
  deriving DecidableEq

inductive CheckpointRunStatus
  | pending
  | active
  | submitted
  deriving DecidableEq

inductive CheckpointAttemptStatus
  | active
  | submitted
  | interrupted
  | failed
  deriving DecidableEq

inductive LifecycleTransitionKind
  | branch
  | evidenceRequest
  | operation
  | release
  | submit
  | revisit
  deriving DecidableEq

inductive EvidenceRequestOutcome
  | released
  | alreadyReleased
  | rejected
  deriving DecidableEq

inductive EvidenceRequestRejection
  | inactiveCheckpoint
  | unknownRequest
  | prerequisitesIncomplete
  | budgetExhausted
  | notSupported
  deriving DecidableEq

inductive LifecycleOperationOutcome
  | completed
  | alreadyCurrent
  | rejected
  deriving DecidableEq

inductive LifecycleOperationDisposition
  | computed
  | reused
  | activated
  deriving DecidableEq

inductive LifecycleOperationRejection
  | inactiveCheckpoint
  | unknownOperation
  | prerequisitesIncomplete
  | staleVisibleSource
  | budgetExhausted
  | notSupported
  deriving DecidableEq

/-! ## Paths -/

/-- `PurePosixPath(path).parts`, without the root of an absolute path: empty components and
`.` are dropped. -/
def pathParts (path : String) : List String :=
  ((path.toList.splitOn '/').map String.ofList).filter fun part => part ≠ "" ∧ part ≠ "."

def isAbsolutePath (path : String) : Bool := path.toList.head? = some '/'

/-- A relative path without `..` whose first component is `namespace`. -/
def StaysUnder (root path : String) : Prop :=
  isAbsolutePath path = false ∧ ".." ∉ pathParts path ∧ (pathParts path).take 1 = [root]

instance (root path : String) : Decidable (StaysUnder root path) :=
  inferInstanceAs (Decidable (_ ∧ _ ∧ _))

/-! ## Operation actions -/

structure LifecycleOperationArtifact where
  path : String
  workspacePath : Option String := none
  sha256 : String
  deriving DecidableEq

def LifecycleOperationArtifact.validatePaths (artifact : LifecycleOperationArtifact) :
    Except String Unit := do
  require (StaysUnder "lifecycle_operations" artifact.path)
    "operation artifact path must stay under lifecycle_operations/"
  require (∀ workspace ∈ artifact.workspacePath, StaysUnder "inbox" workspace)
    "operation workspace path must stay under inbox/"

def LifecycleOperationArtifact.errors (artifact : LifecycleOperationArtifact) : Errors :=
  record
    [("path", nonEmptyStr artifact.path),
      ("sha256", nonEmptyDigest
        "operation artifact sha256 must contain 64 lowercase hexadecimal characters"
        artifact.sha256)]
    artifact.validatePaths

structure LifecycleOperationActionRecord where
  actionId : String
  sequence : ℕ
  checkpointId : String
  requestedCheckpointId : String
  operationId : String
  operationKind : String
  reason : String
  sessionId : String
  attemptId : String
  outcome : LifecycleOperationOutcome
  rejection : Option LifecycleOperationRejection := none
  disposition : Option LifecycleOperationDisposition := none
  visibleSourceStateBeforeSha256 : String
  visibleSourceStateAfterSha256 : String
  physicalSourceStateBeforeSha256 : String
  physicalSourceStateAfterSha256 : String
  inputProjectionSha256 : String
  requestSha256 : String
  resultManifestSha256 : Option String := none
  prerequisiteActionIds : List String := []
  retainedFromActionId : Option String := none
  preActionStateSha256 : String
  postActionStateSha256 : String
  artifacts : List LifecycleOperationArtifact := []
  budgetBefore : ℕ
  budgetConsumed : Fin 2
  budgetAfter : ℕ
  inheritedFromParent : Bool := false
  deriving DecidableEq

/-- What the outcome of an operation says about the rest of its record. -/
def LifecycleOperationActionRecord.validateOutcome (action : LifecycleOperationActionRecord) :
    Except String Unit :=
  match action.outcome with
  | .completed =>
    require (action.requestedCheckpointId = action.checkpointId ∧ action.rejection = none ∧
        (action.disposition = some .computed ∨ action.disposition = some .activated) ∧
        action.budgetConsumed = 1 ∧ action.resultManifestSha256 ≠ none ∧ action.artifacts ≠ [] ∧
        action.retainedFromActionId = none)
      "completed operation must consume budget and bind computed artifacts"
  | .alreadyCurrent =>
    require (action.requestedCheckpointId = action.checkpointId ∧ action.rejection = none ∧
        action.disposition = some .reused ∧ action.budgetConsumed = 0 ∧
        action.resultManifestSha256 = none ∧ action.artifacts ≠ [] ∧
        action.retainedFromActionId ≠ none)
      "already-current operation must reuse one prior result without budget"
  | .rejected =>
    require (action.rejection ≠ none ∧ action.disposition = none ∧ action.budgetConsumed = 0 ∧
        action.resultManifestSha256 = none ∧ action.artifacts = [] ∧
        action.retainedFromActionId = none)
      "rejected operation must record only its typed rejection"

def LifecycleOperationActionRecord.validateOutcomeAndBudget
    (action : LifecycleOperationActionRecord) : Except String Unit := do
  require (action.artifacts.map (·.path)).Nodup "operation artifact path values must be unique"
  require (action.artifacts.filterMap (·.workspacePath)).Nodup
    "operation workspace path values must be unique"
  require ((action.budgetAfter : Int) = action.budgetBefore - action.budgetConsumed.val)
    "operation budget arithmetic is inconsistent"
  action.validateOutcome

def LifecycleOperationActionRecord.errors (action : LifecycleOperationActionRecord) : Errors :=
  let sha256 := nonEmptyDigest "operation sha256 must contain 64 lowercase hexadecimal characters"
  record
    [("action_id", nonEmptyStr action.actionId),
      ("sequence", positiveInt action.sequence),
      ("checkpoint_id", nonEmptyStr action.checkpointId),
      ("requested_checkpoint_id", nonEmptyStr action.requestedCheckpointId),
      ("operation_id", nonEmptyStr action.operationId),
      ("operation_kind", nonEmptyStr action.operationKind),
      ("reason", nonEmptyStr action.reason),
      ("session_id", nonEmptyStr action.sessionId),
      ("attempt_id", nonEmptyStr action.attemptId),
      ("visible_source_state_before_sha256", sha256 action.visibleSourceStateBeforeSha256),
      ("visible_source_state_after_sha256", sha256 action.visibleSourceStateAfterSha256),
      ("physical_source_state_before_sha256", sha256 action.physicalSourceStateBeforeSha256),
      ("physical_source_state_after_sha256", sha256 action.physicalSourceStateAfterSha256),
      ("input_projection_sha256", sha256 action.inputProjectionSha256),
      ("request_sha256", sha256 action.requestSha256),
      ("result_manifest_sha256", optional
        (hexDigest "operation sha256 must contain 64 lowercase hexadecimal characters")
        action.resultManifestSha256),
      ("prerequisite_action_ids", each nonEmptyStr action.prerequisiteActionIds),
      ("pre_action_state_sha256", sha256 action.preActionStateSha256),
      ("post_action_state_sha256", sha256 action.postActionStateSha256),
      ("artifacts", each LifecycleOperationArtifact.errors action.artifacts)]
    action.validateOutcomeAndBudget

/-! ## Evidence request actions -/

structure ReleasedEvidenceArtifact where
  path : String
  workspacePath : String
  sha256 : String
  deriving DecidableEq

def ReleasedEvidenceArtifact.validatePaths (artifact : ReleasedEvidenceArtifact) :
    Except String Unit := do
  require (StaysUnder "evidence_requests" artifact.path)
    "released evidence artifact path must stay under evidence_requests/"
  require (StaysUnder "inbox" artifact.workspacePath)
    "released evidence workspace path must stay under inbox/"

def ReleasedEvidenceArtifact.errors (artifact : ReleasedEvidenceArtifact) : Errors :=
  record
    [("path", nonEmptyStr artifact.path),
      ("workspace_path", nonEmptyStr artifact.workspacePath),
      ("sha256", nonEmptyDigest "sha256 must contain 64 lowercase hexadecimal characters"
        artifact.sha256)]
    artifact.validatePaths

structure EvidenceRequestActionRecord where
  actionId : String
  sequence : ℕ
  checkpointId : String
  requestedCheckpointId : String
  requestId : String
  reason : String
  sessionId : String
  attemptId : String
  outcome : EvidenceRequestOutcome
  rejection : Option EvidenceRequestRejection := none
  preActionStateSha256 : String
  postActionStateSha256 : String
  releasedArtifacts : List ReleasedEvidenceArtifact := []
  budgetBefore : ℕ
  budgetConsumed : Fin 2
  budgetAfter : ℕ
  inheritedFromParent : Bool := false
  deriving DecidableEq

/-- What the outcome of an evidence request says about the rest of its record. -/
def EvidenceRequestActionRecord.validateOutcome (action : EvidenceRequestActionRecord) :
    Except String Unit :=
  match action.outcome with
  | .released =>
    require (action.requestedCheckpointId = action.checkpointId ∧ action.rejection = none ∧
        action.budgetConsumed = 1 ∧ action.releasedArtifacts ≠ [])
      "released evidence request must consume budget and record artifacts"
  | .alreadyReleased =>
    require (action.requestedCheckpointId = action.checkpointId ∧ action.rejection = none ∧
        action.budgetConsumed = 0 ∧ action.releasedArtifacts ≠ [])
      "already-released evidence request must preserve its artifacts"
  | .rejected =>
    require (action.rejection ≠ none ∧ action.budgetConsumed = 0 ∧ action.releasedArtifacts = [])
      "rejected evidence request must record only its rejection"

def EvidenceRequestActionRecord.validateOutcomeAndBudget (action : EvidenceRequestActionRecord) :
    Except String Unit := do
  require ((action.budgetAfter : Int) = action.budgetBefore - action.budgetConsumed.val)
    "evidence request budget arithmetic is inconsistent"
  action.validateOutcome

def EvidenceRequestActionRecord.errors (action : EvidenceRequestActionRecord) : Errors :=
  let sha256 :=
    nonEmptyDigest "action state sha256 must contain 64 lowercase hexadecimal characters"
  record
    [("action_id", nonEmptyStr action.actionId),
      ("sequence", positiveInt action.sequence),
      ("checkpoint_id", nonEmptyStr action.checkpointId),
      ("requested_checkpoint_id", nonEmptyStr action.requestedCheckpointId),
      ("request_id", nonEmptyStr action.requestId),
      ("reason", nonEmptyStr action.reason),
      ("session_id", nonEmptyStr action.sessionId),
      ("attempt_id", nonEmptyStr action.attemptId),
      ("pre_action_state_sha256", sha256 action.preActionStateSha256),
      ("post_action_state_sha256", sha256 action.postActionStateSha256),
      ("released_artifacts", each ReleasedEvidenceArtifact.errors action.releasedArtifacts)]
    action.validateOutcomeAndBudget

/-! ## Attempts -/

structure CheckpointAttemptRecord where
  attemptId : String
  sessionId : String
  sequence : ℕ
  executionMode : String
  status : CheckpointAttemptStatus
  resumedFromAttemptId : Option String := none
  failureKind : Option String := none
  episodeRequestSha256 : Option String := none
  inheritedFromParent : Bool := false
  deriving DecidableEq

def CheckpointAttemptRecord.errors (attempt : CheckpointAttemptRecord) : Errors :=
  record
    [("attempt_id", nonEmptyStr attempt.attemptId),
      ("session_id", nonEmptyStr attempt.sessionId),
      ("sequence", positiveInt attempt.sequence),
      ("execution_mode", nonEmptyStr attempt.executionMode),
      ("episode_request_sha256", optional
        (hexDigest "episode_request_sha256 must contain 64 lowercase hexadecimal characters")
        attempt.episodeRequestSha256)]
    (.ok ())

/-! ## Checkpoints -/

/-- The check of a budget along the actions that spend it: every action belongs to the
checkpoint and starts from the budget the one before it left. Returns what is left. -/
def checkBudgetChain (checkpointId foreign broken : String) :
    ℕ → List (String × ℕ × ℕ) → Except String ℕ
  | remaining, [] => .ok remaining
  | remaining, (owner, budgetBefore, budgetAfter) :: actions => do
    require (owner = checkpointId) foreign
    require (budgetBefore = remaining) broken
    checkBudgetChain checkpointId foreign broken budgetAfter actions

structure CheckpointRunRecord where
  checkpointId : String
  status : CheckpointRunStatus := .pending
  releasedFiles : List String := []
  submissionPath : Option String := none
  submissionSha256 : Option String := none
  attempts : List CheckpointAttemptRecord := []
  evidenceRequestBudget : ℕ := 0
  evidenceRequestBudgetRemaining : ℕ := 0
  evidenceRequestActions : List EvidenceRequestActionRecord := []
  operationBudget : ℕ := 0
  operationBudgetRemaining : ℕ := 0
  operationActions : List LifecycleOperationActionRecord := []
  inheritedFromParent : Bool := false
  deriving DecidableEq

namespace CheckpointRunRecord

/-- Whose budget the evidence requests spend, and what they leave of it. -/
def evidenceSpending (checkpoint : CheckpointRunRecord) : List (String × ℕ × ℕ) :=
  checkpoint.evidenceRequestActions.map fun a => (a.checkpointId, a.budgetBefore, a.budgetAfter)

/-- Whose budget the operations spend, and what they leave of it. -/
def operationSpending (checkpoint : CheckpointRunRecord) : List (String × ℕ × ℕ) :=
  checkpoint.operationActions.map fun a => (a.checkpointId, a.budgetBefore, a.budgetAfter)

def activeAttempts (checkpoint : CheckpointRunRecord) : List CheckpointAttemptRecord :=
  checkpoint.attempts.filter (·.status = .active)

def validateSubmissionAndAttemptState (checkpoint : CheckpointRunRecord) :
    Except String Unit := do
  require (checkpoint.status = .submitted →
      checkpoint.submissionPath ≠ none ∧ checkpoint.submissionSha256 ≠ none)
    "submitted checkpoint requires submission path and sha256"
  require (checkpoint.activeAttempts.length ≤ 1) "checkpoint cannot have multiple active attempts"
  require (checkpoint.attempts.map (·.sequence) = List.range' 1 checkpoint.attempts.length)
    "checkpoint attempt sequences must be contiguous"
  require (checkpoint.evidenceRequestBudgetRemaining ≤ checkpoint.evidenceRequestBudget)
    "remaining evidence request budget cannot exceed its initial budget"
  let remaining ← checkBudgetChain checkpoint.checkpointId
    "evidence request action checkpoint must match its run record"
    "evidence request action budget chain is inconsistent"
    checkpoint.evidenceRequestBudget checkpoint.evidenceSpending
  require (remaining = checkpoint.evidenceRequestBudgetRemaining)
    "remaining evidence request budget must match the action history"
  require (checkpoint.operationBudgetRemaining ≤ checkpoint.operationBudget)
    "remaining operation budget cannot exceed its initial budget"
  let operationRemaining ← checkBudgetChain checkpoint.checkpointId
    "operation action checkpoint must match its run record"
    "operation action budget chain is inconsistent"
    checkpoint.operationBudget checkpoint.operationSpending
  require (operationRemaining = checkpoint.operationBudgetRemaining)
    "remaining operation budget must match the action history"

/-- What the constructor reports: the records inside are taken as they are. -/
def ownErrors (checkpoint : CheckpointRunRecord) : Errors :=
  record [("checkpoint_id", nonEmptyStr checkpoint.checkpointId)]
    checkpoint.validateSubmissionAndAttemptState

/-- What validating the record with everything in it reports. -/
def errors (checkpoint : CheckpointRunRecord) : Errors :=
  record
    [("checkpoint_id", nonEmptyStr checkpoint.checkpointId),
      ("attempts", each CheckpointAttemptRecord.errors checkpoint.attempts),
      ("evidence_request_actions",
        each EvidenceRequestActionRecord.errors checkpoint.evidenceRequestActions),
      ("operation_actions",
        each LifecycleOperationActionRecord.errors checkpoint.operationActions)]
    checkpoint.validateSubmissionAndAttemptState

/-- The attempt that is active, looked for from the last one. -/
def activeAttempt (checkpoint : CheckpointRunRecord) : Option CheckpointAttemptRecord :=
  checkpoint.attempts.reverse.find? (·.status = .active)

def lastAttempt (checkpoint : CheckpointRunRecord) : Option CheckpointAttemptRecord :=
  checkpoint.attempts.getLast?

end CheckpointRunRecord

/-! ## Run states -/

structure CheckpointRevisitRecord where
  revisitId : String
  checkpointId : String
  requestedFromCheckpointId : Option String := none
  reason : String
  deriving DecidableEq

def CheckpointRevisitRecord.errors (revisit : CheckpointRevisitRecord) : Errors :=
  record
    [("revisit_id", nonEmptyStr revisit.revisitId),
      ("checkpoint_id", nonEmptyStr revisit.checkpointId),
      ("reason", nonEmptyStr revisit.reason)]
    (.ok ())

structure LifecycleTransitionRecord where
  transitionId : String
  kind : LifecycleTransitionKind
  fromCheckpointId : Option String := none
  toCheckpointId : Option String := none
  reason : String
  deriving DecidableEq

def LifecycleTransitionRecord.errors (transition : LifecycleTransitionRecord) : Errors :=
  record
    [("transition_id", nonEmptyStr transition.transitionId),
      ("reason", nonEmptyStr transition.reason)]
    (.ok ())

structure LifecycleBranchRecord where
  branchId : String
  parentRunDir : String
  branchedFromCheckpointId : String
  parentSubmissionSha256 : String
  parentActionStateSha256 : Option String := none
  reason : String
  deriving DecidableEq

def LifecycleBranchRecord.errors (branch : LifecycleBranchRecord) : Errors :=
  record
    [("branch_id", nonEmptyStr branch.branchId),
      ("parent_run_dir", nonEmptyStr branch.parentRunDir),
      ("branched_from_checkpoint_id", nonEmptyStr branch.branchedFromCheckpointId),
      ("parent_submission_sha256", nonEmptyStr branch.parentSubmissionSha256),
      ("parent_action_state_sha256", optional
        (hexDigest "parent action state sha256 must contain 64 lowercase hexadecimal characters")
        branch.parentActionStateSha256),
      ("reason", nonEmptyStr branch.reason)]
    (.ok ())

/-- `schema_version`, one of `"6"` and `"7"`. -/
inductive SchemaVersion
  | v6
  | v7
  deriving DecidableEq

structure EvidenceLifecycleRunState where
  schemaVersion : SchemaVersion := .v6
  lifecycleId : String
  lifecycleSpecSha256 : String
  packageSha256 : String
  runAuthorizationSha256 : Option String := none
  status : LifecycleRunStatus := .awaitingEvidenceRelease
  activeCheckpointId : Option String := none
  checkpointRuns : List CheckpointRunRecord
  revisits : List CheckpointRevisitRecord := []
  transitions : List LifecycleTransitionRecord := []
  branch : Option LifecycleBranchRecord := none
  deriving DecidableEq, Inhabited

/-- The position of a status in the order the checkpoints of a run follow. -/
def CheckpointRunStatus.phase : CheckpointRunStatus → ℕ
  | .submitted => 0
  | .active => 1
  | .pending => 2

def operationActionId (sequence : ℕ) : String := "operation-" ++ Text.padded 6 sequence

def evidenceRequestActionId (sequence : ℕ) : String :=
  "evidence-request-" ++ Text.padded 6 sequence

/-- The identities of `n` actions that are numbered without gaps from 1. -/
def denseIdentities (actionId : ℕ → String) (n : ℕ) : List (ℕ × String) :=
  (List.range' 1 n).map fun i => (i, actionId i)

namespace EvidenceLifecycleRunState

def checkpointIds (state : EvidenceLifecycleRunState) : List String :=
  state.checkpointRuns.map (·.checkpointId)

def activeCheckpoints (state : EvidenceLifecycleRunState) : List CheckpointRunRecord :=
  state.checkpointRuns.filter (·.status = .active)

/-- The operations of the whole run, checkpoint by checkpoint. -/
def operationActions (state : EvidenceLifecycleRunState) :
    List LifecycleOperationActionRecord :=
  state.checkpointRuns.flatMap (·.operationActions)

/-- The evidence requests of the whole run, checkpoint by checkpoint. -/
def evidenceRequestActions (state : EvidenceLifecycleRunState) :
    List EvidenceRequestActionRecord :=
  state.checkpointRuns.flatMap (·.evidenceRequestActions)

/-- The check of the run's status against its active checkpoint. -/
def validateStatus (state : EvidenceLifecycleRunState) : Except String Unit :=
  match state.status with
  | .complete => do
    require (state.activeCheckpointId = none ∧ state.activeCheckpoints = [])
      "complete lifecycle cannot have an active checkpoint"
    require (∀ checkpoint ∈ state.checkpointRuns, checkpoint.status = .submitted)
      "complete lifecycle requires every checkpoint to be submitted"
  | .awaitingCheckpointSubmission => do
    require (state.activeCheckpointId ≠ none ∧ state.activeCheckpoints.length = 1)
      "awaiting submission requires exactly one active checkpoint"
    require (state.activeCheckpoints.head?.map (·.checkpointId) = state.activeCheckpointId)
      "active checkpoint id must match the active checkpoint record"
  | .awaitingEvidenceRelease =>
    require (state.activeCheckpointId = none ∧ state.activeCheckpoints = [])
      "awaiting evidence release cannot have an active checkpoint"

/-- The message for a branch state without the hash of its parent's actions. -/
def missingParentActionState : SchemaVersion → String
  | .v6 => "v6 branch state requires a parent action state sha256"
  | .v7 => "v7 branch state requires a parent action state sha256"

def validateRunState (state : EvidenceLifecycleRunState) : Except String Unit := do
  require state.checkpointIds.Nodup "lifecycle state checkpoint ids must be unique"
  state.validateStatus
  require ((state.checkpointRuns.map (·.status.phase)).Pairwise (· ≤ ·))
    "checkpoint statuses must follow submitted, active, then pending order"
  require (∀ branch ∈ state.branch, branch.branchedFromCheckpointId ∈ state.checkpointIds)
    "branch checkpoint must exist in lifecycle state"
  require (∀ branch ∈ state.branch, branch.parentActionStateSha256 ≠ none)
    (missingParentActionState state.schemaVersion)
  require (state.schemaVersion = .v6 → state.operationActions = [] ∧
      ∀ checkpoint ∈ state.checkpointRuns,
        checkpoint.operationBudget = 0 ∧ checkpoint.operationBudgetRemaining = 0)
    "v6 lifecycle state cannot contain operation state"
  require (state.operationActions.map (fun a => (a.sequence, a.actionId)) =
      denseIdentities operationActionId state.operationActions.length)
    "operation action identities must be contiguous and globally ordered across the run"
  require (state.evidenceRequestActions.map (fun a => (a.sequence, a.actionId)) =
      denseIdentities evidenceRequestActionId state.evidenceRequestActions.length)
    "evidence request action identities must be contiguous and globally ordered across the run"

/-- The fields of the state itself. -/
def ownFields (state : EvidenceLifecycleRunState) : List (String × Errors) :=
  [("lifecycle_id", nonEmptyStr state.lifecycleId),
    ("lifecycle_spec_sha256", nonEmptyStr state.lifecycleSpecSha256),
    ("package_sha256", nonEmptyStr state.packageSha256),
    ("run_authorization_sha256", optional
      (hexDigest "run authorization sha256 must contain 64 lowercase hexadecimal characters")
      state.runAuthorizationSha256)]

/-- What the constructor reports: the records inside are taken as they are. -/
def ownErrors (state : EvidenceLifecycleRunState) : Errors :=
  record state.ownFields state.validateRunState

/-- What validating the state with everything in it reports. -/
def errors (state : EvidenceLifecycleRunState) : Errors :=
  record
    (state.ownFields ++
      [("checkpoint_runs", each CheckpointRunRecord.errors state.checkpointRuns),
        ("revisits", each CheckpointRevisitRecord.errors state.revisits),
        ("transitions", each LifecycleTransitionRecord.errors state.transitions),
        ("branch", optional LifecycleBranchRecord.errors state.branch)])
    state.validateRunState

/-- `state.checkpoint(checkpoint_id)`, or nothing where it raises `KeyError`. -/
def checkpoint? (state : EvidenceLifecycleRunState) (checkpointId : String) :
    Option CheckpointRunRecord :=
  state.checkpointRuns.find? (·.checkpointId = checkpointId)

end EvidenceLifecycleRunState

/-! ## Validity -/

/-- The actions spend the budget of the checkpoint from `budget` down to `remaining`. -/
def Spends (checkpointId : String) : ℕ → List (String × ℕ × ℕ) → ℕ → Prop
  | budget, [], remaining => budget = remaining
  | budget, (owner, budgetBefore, budgetAfter) :: actions, remaining =>
    owner = checkpointId ∧ budgetBefore = budget ∧ Spends checkpointId budgetAfter actions remaining

lemma checkBudgetChain_eq_ok {checkpointId foreign broken : String} {budget remaining : ℕ}
    {actions : List (String × ℕ × ℕ)} :
    checkBudgetChain checkpointId foreign broken budget actions = .ok remaining ↔
      Spends checkpointId budget actions remaining := by
  induction actions generalizing budget with
  | nil => simp [checkBudgetChain, Spends]
  | cons a actions ih =>
    obtain ⟨owner, budgetBefore, budgetAfter⟩ := a
    rw [checkBudgetChain, require_bind_eq_ok, require_bind_eq_ok, ih, Spends]

/-- **A checkpoint record is valid** when its own validators pass and every record in it is
valid. -/
lemma CheckpointRunRecord.errors_eq_nil {checkpoint : CheckpointRunRecord} :
    checkpoint.errors = [] ↔ checkpoint.ownErrors = [] ∧
      (∀ a ∈ checkpoint.attempts, a.errors = []) ∧
      (∀ a ∈ checkpoint.evidenceRequestActions, a.errors = []) ∧
      ∀ a ∈ checkpoint.operationActions, a.errors = [] := by
  simp only [errors, ownErrors, record_eq_nil, List.forall_mem_cons, List.not_mem_nil,
    each_eq_nil, nonEmptyStr_eq_nil]
  tauto

/-- What a checkpoint record says of itself, apart from the records in it. -/
structure CheckpointRunRecord.Consistent (checkpoint : CheckpointRunRecord) : Prop where
  named : ¬ Text.Blank checkpoint.checkpointId
  submission : checkpoint.status = .submitted →
    checkpoint.submissionPath ≠ none ∧ checkpoint.submissionSha256 ≠ none
  oneActive : checkpoint.activeAttempts.length ≤ 1
  sequences : checkpoint.attempts.map (·.sequence) = List.range' 1 checkpoint.attempts.length
  evidenceRemaining : checkpoint.evidenceRequestBudgetRemaining ≤ checkpoint.evidenceRequestBudget
  evidenceSpent : Spends checkpoint.checkpointId checkpoint.evidenceRequestBudget
    checkpoint.evidenceSpending checkpoint.evidenceRequestBudgetRemaining
  operationRemaining : checkpoint.operationBudgetRemaining ≤ checkpoint.operationBudget
  operationSpent : Spends checkpoint.checkpointId checkpoint.operationBudget
    checkpoint.operationSpending checkpoint.operationBudgetRemaining

lemma CheckpointRunRecord.ownErrors_eq_nil {checkpoint : CheckpointRunRecord} :
    checkpoint.ownErrors = [] ↔ checkpoint.Consistent := by
  simp only [ownErrors, record_eq_nil, List.forall_mem_cons, List.not_mem_nil,
    nonEmptyStr_eq_nil, validateSubmissionAndAttemptState, bind_eq_ok, exists_const,
    checkBudgetChain_eq_ok, require_eq_ok]
  constructor
  · rintro ⟨⟨hn, -⟩, hsub, hact, hseq, her, er, her', hs, hor, or, hor', hs'⟩
    subst hs hs'
    exact ⟨hn, hsub, hact, hseq, her, her', hor, hor'⟩
  · intro h
    exact ⟨⟨h.named, by simp⟩, h.submission, h.oneActive, h.sequences, h.evidenceRemaining, _,
      h.evidenceSpent, rfl, h.operationRemaining, _, h.operationSpent, rfl⟩

variable {state : EvidenceLifecycleRunState}

/-- **A run state is valid** when its own validators pass and every record in it is valid. -/
lemma EvidenceLifecycleRunState.errors_eq_nil :
    state.errors = [] ↔ state.ownErrors = [] ∧
      (∀ c ∈ state.checkpointRuns, c.errors = []) ∧
      (∀ r ∈ state.revisits, r.errors = []) ∧
      (∀ t ∈ state.transitions, t.errors = []) ∧
      ∀ b ∈ state.branch, b.errors = [] := by
  simp only [errors, ownErrors, record_eq_nil, List.forall_mem_append, List.forall_mem_cons,
    List.not_mem_nil, each_eq_nil, optional_eq_nil]
  tauto

/-- The run's status agrees with its active checkpoints. -/
def EvidenceLifecycleRunState.StatusAgrees (state : EvidenceLifecycleRunState) : Prop :=
  match state.status with
  | .complete => state.activeCheckpointId = none ∧ state.activeCheckpoints = [] ∧
      ∀ checkpoint ∈ state.checkpointRuns, checkpoint.status = .submitted
  | .awaitingCheckpointSubmission => ∃ checkpoint, state.activeCheckpoints = [checkpoint] ∧
      state.activeCheckpointId = some checkpoint.checkpointId
  | .awaitingEvidenceRelease => state.activeCheckpointId = none ∧ state.activeCheckpoints = []

lemma EvidenceLifecycleRunState.validateStatus_eq_ok {u : Unit} :
    state.validateStatus = .ok u ↔ state.StatusAgrees := by
  rw [validateStatus, StatusAgrees]
  split
  · rw [require_bind_eq_ok, require_eq_ok, and_assoc]
  · rw [require_bind_eq_ok, require_eq_ok, List.length_eq_one_iff]
    constructor
    · rintro ⟨⟨-, checkpoint, hc⟩, hid⟩
      rw [hc] at hid
      exact ⟨checkpoint, hc, hid.symm⟩
    · rintro ⟨checkpoint, hc, hid⟩
      rw [hc, hid]
      exact ⟨⟨by simp, checkpoint, rfl⟩, rfl⟩
  · rw [require_eq_ok]

/-- What a run state says of itself, apart from the records in it. -/
structure EvidenceLifecycleRunState.Consistent (state : EvidenceLifecycleRunState) : Prop where
  named : ¬ Text.Blank state.lifecycleId ∧ ¬ Text.Blank state.lifecycleSpecSha256 ∧
    ¬ Text.Blank state.packageSha256
  authorization : ∀ sha256 ∈ state.runAuthorizationSha256, Text.HexDigest sha256
  ids : state.checkpointIds.Nodup
  statusAgrees : state.StatusAgrees
  phases : (state.checkpointRuns.map (·.status.phase)).Pairwise (· ≤ ·)
  branchPoint : ∀ branch ∈ state.branch, branch.branchedFromCheckpointId ∈ state.checkpointIds
  branchActions : ∀ branch ∈ state.branch, branch.parentActionStateSha256 ≠ none
  withoutOperations : state.schemaVersion = .v6 → state.operationActions = [] ∧
    ∀ checkpoint ∈ state.checkpointRuns,
      checkpoint.operationBudget = 0 ∧ checkpoint.operationBudgetRemaining = 0
  operationIdentities : state.operationActions.map (fun a => (a.sequence, a.actionId)) =
    denseIdentities operationActionId state.operationActions.length
  evidenceIdentities : state.evidenceRequestActions.map (fun a => (a.sequence, a.actionId)) =
    denseIdentities evidenceRequestActionId state.evidenceRequestActions.length

lemma EvidenceLifecycleRunState.ownErrors_eq_nil : state.ownErrors = [] ↔ state.Consistent := by
  simp only [ownErrors, ownFields, record_eq_nil, List.forall_mem_cons, List.not_mem_nil,
    nonEmptyStr_eq_nil, optional_eq_nil, hexDigest_eq_nil, validateRunState, bind_eq_ok,
    exists_const, validateStatus_eq_ok, require_eq_ok]
  constructor
  · rintro ⟨⟨hl, hs, hp, ha, -⟩, hids, hst, hph, hb, hba, hv, ho, he⟩
    exact ⟨⟨hl, hs, hp⟩, ha, hids, hst, hph, hb, hba, hv, ho, he⟩
  · intro h
    exact ⟨⟨h.named.1, h.named.2.1, h.named.2.2, h.authorization, by simp⟩, h.ids,
      h.statusAgrees, h.phases, h.branchPoint, h.branchActions, h.withoutOperations,
      h.operationIdentities, h.evidenceIdentities⟩

end AecBench.Lifecycles
