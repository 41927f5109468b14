import AecBench.Lib.Validation

/-!
# Records of a rollout group

A rollout group opens several children of one world at one snapshot of their parent. Its records are
a request, a receipt for each child, and a lineage that holds the receipts in the order of the
request.

## Main definitions

* `SnapshotRef`, `ChildRequest`, `GroupRequest` — what is asked for.
* `ChildReceipt`, `Lineage` — the evidence, with their validators `receiptError`, `lineageError`.
* `receiptMatchesChild`, `lineageMatchesRequest` — the joins of the evidence to the request.
-/

namespace AecBench.Worlds.Rollout

open Text

structure WorldBuildRef where
  taskWorldId : NonEmptyStr
  entryPoint : NonEmptyStr
  artifactSha256 : String
  deriving DecidableEq

structure ProfileRef where
  taskWorldId : NonEmptyStr
  profileId : NonEmptyStr
  profileContentSha256 : String
  deriving DecidableEq

/-- One immutable point of a world history. -/
structure SnapshotRef where
  runId : NonEmptyStr
  episodeId : NonEmptyStr
  worldBranchId : NonEmptyStr
  sequence : ℕ
  stateId : NonEmptyStr
  commitId : NonEmptyStr
  deriving DecidableEq

structure ChildRequest where
  childId : NonEmptyStr
  runId : NonEmptyStr
  episodeId : NonEmptyStr
  worldBranchId : NonEmptyStr
  contentSha256 : String
  deriving DecidableEq

/-- One request for ordered children of a snapshot, with what its validators require. -/
structure GroupRequest where
  requestId : NonEmptyStr
  groupId : NonEmptyStr
  taskWorldId : NonEmptyStr
  authorityId : NonEmptyStr
  worldBuild : WorldBuildRef
  profileRef : ProfileRef
  parentManifestContentSha256 : String
  parentSnapshot : SnapshotRef
  originVerificationContentSha256 : String
  reason : NonEmptyStr
  children : List ChildRequest
  contentSha256 : String
  build_world : worldBuild.taskWorldId = taskWorldId
  profile_world : profileRef.taskWorldId = taskWorldId
  children_ne : children ≠ []
  childIds_nodup : (children.map (·.childId)).Nodup
  runIds_nodup : (children.map (·.runId)).Nodup
  episodeIds_nodup : (children.map (·.episodeId)).Nodup
  worldBranchIds_nodup : (children.map (·.worldBranchId)).Nodup
  apart : ∀ child ∈ children, child.runId ≠ parentSnapshot.runId ∧
    child.episodeId ≠ parentSnapshot.episodeId ∧
    child.worldBranchId ≠ parentSnapshot.worldBranchId
  deriving DecidableEq

/-- The evidence of one verified child. -/
structure ChildReceipt where
  groupId : NonEmptyStr
  childId : NonEmptyStr
  childRequestContentSha256 : String
  parentSnapshot : SnapshotRef
  initialSnapshot : SnapshotRef
  childManifestContentSha256 : String
  taskBranchReceiptContentSha256 : String
  ancestorWorldBranchIds : List NonEmptyStr
  deriving DecidableEq

/-- The complete lineage of a ready group. -/
structure Lineage where
  requestId : NonEmptyStr
  groupId : NonEmptyStr
  taskWorldId : NonEmptyStr
  worldBuild : WorldBuildRef
  profileRef : ProfileRef
  requestContentSha256 : String
  parentManifestContentSha256 : String
  parentSnapshot : SnapshotRef
  originVerificationContentSha256 : String
  children : List ChildReceipt
  deriving DecidableEq

/-! ## Validators -/

/-- `validate_receipt`. -/
def receiptError (receipt : ChildReceipt) : Option String :=
  if (receipt.initialSnapshot.sequence, receipt.initialSnapshot.stateId) ≠
      (receipt.parentSnapshot.sequence, receipt.parentSnapshot.stateId) then
    some "continual rollout child must open at the selected parent state"
  else if receipt.ancestorWorldBranchIds = [] then
    some "continual rollout receipt requires an ordered branch ancestry"
  else if receipt.initialSnapshot.worldBranchId ∈ receipt.ancestorWorldBranchIds then
    some "continual rollout branch ancestry must exclude the child branch"
  else if receipt.ancestorWorldBranchIds.getLast? ≠ some receipt.parentSnapshot.worldBranchId then
    some "continual rollout branch ancestry must end at the parent branch"
  else if ¬ receipt.ancestorWorldBranchIds.Nodup then
    some "continual rollout branch ancestry must not contain a cycle"
  else none

/-- `validate_lineage`. -/
def lineageError (lineage : Lineage) : Option String :=
  if lineage.worldBuild.taskWorldId ≠ lineage.taskWorldId then
    some "continual rollout lineage definition belongs to another task world"
  else if lineage.profileRef.taskWorldId ≠ lineage.taskWorldId then
    some "continual rollout lineage profile belongs to another task world"
  else if lineage.children = [] then
    some "continual rollout lineage requires at least one child"
  else if ∃ child ∈ lineage.children, child.groupId ≠ lineage.groupId then
    some "continual rollout child receipt belongs to another group"
  else if ∃ child ∈ lineage.children, child.parentSnapshot ≠ lineage.parentSnapshot then
    some "continual rollout child receipt must use the lineage parent snapshot"
  else if ¬ (lineage.children.map (·.childId)).Nodup then
    some "continual rollout lineage child ids must be distinct"
  else none

/-- The join that `_require_receipt_matches_child` requires. -/
def ReceiptMatchesChild (receipt : ChildReceipt) (request : GroupRequest) (child : ChildRequest) :
    Prop :=
  receipt.groupId = request.groupId ∧ receipt.childId = child.childId ∧
  receipt.childRequestContentSha256 = child.contentSha256 ∧
  receipt.parentSnapshot = request.parentSnapshot ∧
  receipt.initialSnapshot.runId = child.runId ∧
  receipt.initialSnapshot.episodeId = child.episodeId ∧
  receipt.initialSnapshot.worldBranchId = child.worldBranchId

instance (receipt : ChildReceipt) (request : GroupRequest) (child : ChildRequest) :
    Decidable (ReceiptMatchesChild receipt request child) := inferInstanceAs (Decidable (_ ∧ _))

/-- The join that `_require_lineage_matches_request` requires. -/
def LineageMatchesRequest (lineage : Lineage) (request : GroupRequest) : Prop :=
  lineage.requestId = request.requestId ∧ lineage.groupId = request.groupId ∧
  lineage.taskWorldId = request.taskWorldId ∧ lineage.worldBuild = request.worldBuild ∧
  lineage.profileRef = request.profileRef ∧
  lineage.requestContentSha256 = request.contentSha256 ∧
  lineage.parentManifestContentSha256 = request.parentManifestContentSha256 ∧
  lineage.parentSnapshot = request.parentSnapshot ∧
  lineage.originVerificationContentSha256 = request.originVerificationContentSha256

instance (lineage : Lineage) (request : GroupRequest) :
    Decidable (LineageMatchesRequest lineage request) := inferInstanceAs (Decidable (_ ∧ _))

/-- The lineage of a request with its receipts. -/
def lineageOf (request : GroupRequest) (receipts : List ChildReceipt) : Lineage where
  requestId := request.requestId
  groupId := request.groupId
  taskWorldId := request.taskWorldId
  worldBuild := request.worldBuild
  profileRef := request.profileRef
  requestContentSha256 := request.contentSha256
  parentManifestContentSha256 := request.parentManifestContentSha256
  parentSnapshot := request.parentSnapshot
  originVerificationContentSha256 := request.originVerificationContentSha256
  children := receipts

end AecBench.Worlds.Rollout
