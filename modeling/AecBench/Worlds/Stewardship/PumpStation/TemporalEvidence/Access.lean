import AecBench.Worlds.Stewardship.PumpStation.TemporalEvidence.Models

/-!
# Access to documentary evidence

What a search or a fetch is made of: the host's context, the result that the actor sees, the
private receipt, and the state of a session with its remaining budget. Each record is checked when
it is built.

## Main definitions

* `TemporalAccessContext` — the context of one access.
* `TemporalEvidenceAccessResult`, `TemporalEvidenceAccessReceipt` — what the actor sees of an
  access and what the host keeps of it.
* `TemporalRetrievalState` — the state of a session.
* `TemporalAccessDecision` — what the gateway returns.
* `Payload` — what content ids are computed of.
-/

namespace AecBench.Worlds.PumpStation.TemporalEvidence

open Validation Text

inductive TemporalEvidenceAccessKind
  | search
  | fetch
  deriving DecidableEq

inductive TemporalEvidenceAccessStatus
  | ok
  | noAccessibleResult
  | retrievalUnavailable
  deriving DecidableEq

/-- Why an access ended as it did, for the host only. -/
inductive TemporalEvidencePrivateReason
  | matched
  | noMatch
  | futureEvidence
  | accessDenied
  | branchMismatch
  | sourceUnavailable
  | unissuedReference
  | budgetExhausted
  | invalidRequest
  deriving DecidableEq

/-! ## The context -/

/-- The host's context of one search or fetch. -/
structure TemporalAccessContext where
  runId : String
  episodeId : String
  worldInstanceId : String
  worldBranchId : String
  worldStateId : String
  worldCommitId : String
  worldSequence : ℕ
  worldTimeSeconds : ℕ
  actorId : String
  actorRole : String
  agentTenureId : String
  sessionId : String
  baseViewId : String
  priorInformationSetId : String
  toolContractId : String
  branchAncestorIds : List String

/-! ## What the actor sees -/

/-- One found version, under a reference that does not tell what it refers to. -/
structure TemporalEvidenceVisibleReference where
  opaqueReference : String
  versionId : String
  title : String
  snippet : String
  citation : String
  sourceClass : TemporalEvidenceSourceClass
  authorityClass : TemporalEvidenceAuthorityClass
  eventStartSeconds : ℕ
  effectiveFromSeconds : ℕ
  effectiveToSeconds : Option ℤ
  superseded : Bool
  currentlyApplicable : Bool
  deriving DecidableEq

structure TemporalFetchedEvidence where
  opaqueReference : String
  versionId : String
  title : String
  citation : String
  sourceClass : TemporalEvidenceSourceClass
  authorityClass : TemporalEvidenceAuthorityClass
  content : String
  superseded : Bool
  currentlyApplicable : Bool
  deriving DecidableEq

/-- What the actor sees of one search or fetch. -/
structure TemporalEvidenceAccessResult where
  requestId : String
  accessSequence : ℕ
  operation : TemporalEvidenceAccessKind
  worldTimeSeconds : ℕ
  normalizedQuery : Option String
  requestedReference : Option String
  references : List TemporalEvidenceVisibleReference
  fetchedContent : Option TemporalFetchedEvidence
  publicStatus : TemporalEvidenceAccessStatus
  truncated : Bool
  visibleCost : RetrievalBudgetVector
  deriving DecidableEq

/-- The evidence that a successful access shows. -/
def TemporalEvidenceAccessResult.successPayload (r : TemporalEvidenceAccessResult) : Bool :=
  match r.operation with
  | .search => r.references ≠ []
  | .fetch => r.fetchedContent.isSome

/-- `validate_result`, after the check of the request id. -/
def TemporalEvidenceAccessResult.check (r : TemporalEvidenceAccessResult) : Except String PUnit := do
  require (¬ Blank r.requestId) "value must not be blank"
  require (0 < r.accessSequence) "access result position is invalid"
  match r.operation with
  | .search => do
    require (r.normalizedQuery.isSome ∧ r.requestedReference = none)
      "search result requires only a normalized query"
    require (r.fetchedContent = none) "search result cannot contain fetched content"
  | .fetch => do
    require (r.requestedReference.isSome ∧ r.normalizedQuery = none)
      "fetch result requires only a requested reference"
    require (r.references = []) "fetch result cannot contain search references"
  match r.publicStatus with
  | .ok =>
    require r.successPayload "successful access result lacks visible evidence"
  | _ =>
    require (r.references = [] ∧ r.fetchedContent = none)
      "unsuccessful access result must not contain evidence"

/-! ## The state of a session -/

/-- The version that a reference of a session stands for. -/
structure IssuedTemporalReference where
  opaqueReference : String
  evidenceVersionId : String

/-- The access state of one tenure. -/
structure TemporalRetrievalState where
  stateSequence : ℕ
  previousStateId : Option String
  referenceNamespaceId : String
  remainingBudget : RetrievalBudgetVector
  issuedReferences : List IssuedTemporalReference
  accessResultIds : List String
  actorEventIds : List String
  fetchedContentIds : List String
  unresolvedSearchIds : List String
  installedCarrierId : Option String

/-- `validate_state`. -/
def TemporalRetrievalState.check (s : TemporalRetrievalState) : Except String PUnit := do
  require (s.stateSequence = 0 → s.previousStateId = none)
    "initial retrieval state cannot have a parent"
  require (0 < s.stateSequence → s.previousStateId.isSome)
    "advanced retrieval state requires a parent"
  require (s.issuedReferences.map IssuedTemporalReference.opaqueReference).Nodup
    "issued opaque references must be distinct"
  require s.accessResultIds.Nodup "access results must not contain duplicate identities"
  require s.actorEventIds.Nodup "actor events must not contain duplicate identities"
  require s.fetchedContentIds.Nodup "fetched content must not contain duplicate identities"
  require s.unresolvedSearchIds.Nodup "unresolved searches must not contain duplicate identities"

/-! ## The receipt -/

/-- What the host keeps of one access; the fields that it takes over from the context are kept as
that context. -/
structure TemporalEvidenceAccessReceipt where
  receiptSequence : ℕ
  requestId : String
  requestContentId : String
  context : TemporalAccessContext
  resultingInformationSetId : String
  corpusSnapshotId : String
  retrievalPolicyId : String
  accessPolicyId : String
  availabilityScheduleId : String
  branchNamespacePolicyId : String
  costPolicyId : String
  knowledgeFrontierFingerprint : String
  accessContextId : String
  originalQuery : Option String
  normalizedQuery : Option String
  requestedScope : Option String
  requestedLimit : Option ℤ
  requestedReference : Option String
  returnedVersionIds : List String
  eligibleFrontierFingerprint : String
  rankingInputFingerprint : String
  visibleResult : TemporalEvidenceAccessResult
  publicStatus : TemporalEvidenceAccessStatus
  privateReason : TemporalEvidencePrivateReason
  budgetBefore : RetrievalBudgetVector
  budgetConsumed : RetrievalBudgetVector
  budgetAfter : RetrievalBudgetVector

/-- `_require_budget_equation`. -/
def requireBudgetEquation (before consumed after : RetrievalBudgetVector) :
    Except String PUnit :=
  RetrievalBudgetVector.modelFields.forM fun field =>
    require ((field.2 before : ℤ) - field.2 consumed = field.2 after)
      s!"retrieval budget is not conserved for {field.1}"

/-- `validate_receipt`, after the checks of the texts that a caller gives. -/
def TemporalEvidenceAccessReceipt.check (r : TemporalEvidenceAccessReceipt) : Except String PUnit := do
  require (¬ Blank r.requestId ∧ ¬ Blank r.resultingInformationSetId) "value must not be blank"
  require (r.receiptSequence = r.visibleResult.accessSequence)
    "receipt and visible result sequence differ"
  require (r.publicStatus = r.visibleResult.publicStatus)
    "receipt and visible result status differ"
  match r.visibleResult.operation with
  | .search => do
    require (r.requestedScope.isSome ∧ r.requestedLimit.isSome)
      "search receipt lacks its requested scope or limit"
    require (r.requestedReference = none) "search receipt cannot contain a requested reference"
  | .fetch =>
    require (r.requestedScope = none ∧ r.requestedLimit = none ∧ r.originalQuery = none ∧
      r.normalizedQuery = none) "fetch receipt cannot contain search arguments"
  requireBudgetEquation r.budgetBefore r.budgetConsumed r.budgetAfter

/-! ## The decision -/

/-- What the gateway returns for one access. -/
structure TemporalAccessDecision where
  result : TemporalEvidenceAccessResult
  receipt : TemporalEvidenceAccessReceipt
  nextState : TemporalRetrievalState

/-- `validate_decision`. -/
def TemporalAccessDecision.check (d : TemporalAccessDecision) : Except String PUnit := do
  require (d.receipt.visibleResult = d.result) "access decision receipt and result differ"
  require (d.receipt.budgetAfter = d.nextState.remainingBudget)
    "access decision state and receipt budget differ"
  require d.nextState.previousStateId.isSome "access decision must advance retrieval state"

/-! ## Content ids -/

/-- The values whose canonical texts are hashed. -/
inductive Payload
  | searchRequest (requestId query scope : String) (limit : ℤ) (context : TemporalAccessContext)
      (stateId : String)
  | fetchRequest (requestId reference : String) (context : TemporalAccessContext)
      (stateId : String)
  | opaqueReference (referenceNamespaceId evidenceContentId : String)
  | result (r : TemporalEvidenceAccessResult)
  | fetched (f : TemporalFetchedEvidence)
  | state (s : TemporalRetrievalState)
  | frontier (worldInstanceId worldBranchId worldStateId : String) (worldTimeSeconds : ℕ)
      (actorId corpusSnapshotId accessPolicyId availabilityScheduleId branchPolicyId
        retrievalPolicyId : String)
  | accessContext (knowledgeFrontierFingerprint agentTenureId sessionId toolContractId : String)
      (remainingBudget : RetrievalBudgetVector)
  | eligible (contentIds : List String)
  | ranking (normalizedQuery : Option String) (contentIds : List String)

end AecBench.Worlds.PumpStation.TemporalEvidence
