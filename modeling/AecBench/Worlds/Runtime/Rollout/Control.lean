import AecBench.Lib.Rank
import AecBench.Worlds.Runtime.Rollout.Contracts

/-!
# Creating rollout groups

Any number of calls create the same group. A call reserves the group and its children under the lock
of the group, materialises each child under the lock of the child, and then, under the lock of the
group again, publishes the receipts and the lineage. It may stop at any step; its locks are free
then. A file is published whole, and is never changed or removed.

The functions of the branch port are functions of their arguments: the port is deterministic, and a
child that is materialised again is the same child.

## Main definitions

* `BranchPort`, `Control` — the task's port and the host's registration.
* `Files`, `Group` — the files of one group, and its locks.
* `materializeChild`, `publishChildReceipt`, `loadCompleteLineage` — the parts of the source.
* `Place`, `createGroup` — where a call is, and the calls as an interleaving.
-/

namespace AecBench.Worlds.Rollout

open Text Validation

/-- What a call raises: a rollout error, or the error of a record that is not valid. -/
inductive RolloutError
  | rollout (code detail : String)
  | invalid (message : String)
  deriving DecidableEq

/-! ## The port -/

structure Origin where
  parentSnapshot : SnapshotRef
  parentManifestContentSha256 : String
  originVerificationContentSha256 : String
  ancestorWorldBranchIds : List NonEmptyStr
  deriving DecidableEq

structure Materialization where
  initialSnapshot : SnapshotRef
  childManifestContentSha256 : String
  taskBranchReceiptContentSha256 : String
  ancestorWorldBranchIds : List NonEmptyStr

/-- The task's port; its exceptions are rollout errors, or were turned into such. -/
structure BranchPort where
  verifyOrigin : GroupRequest → Except RolloutError Origin
  materializeChild :
    GroupRequest → ChildRequest → Origin → Except RolloutError Materialization
  verifyChild : GroupRequest → ChildRequest → ChildReceipt → Except RolloutError Unit

structure Control where
  definitionRef : WorldBuildRef
  loadProfile : ProfileRef → Except String Unit
  authorisedPrincipalIds : List NonEmptyStr
  port : BranchPort

/-- `_safe_id`: a letter or digit, and at most 127 more letters, digits, points, underscores and
hyphens. -/
def SafeId (value : NonEmptyStr) : Prop :=
  match value.val.toList with
  | [] => False
  | c :: rest => c.isAlphanum = true ∧ rest.length ≤ 127 ∧
    rest.all (fun d => d.isAlphanum || d = '.' || d = '_' || d = '-') = true

instance (value : NonEmptyStr) : Decidable (SafeId value) := by
  unfold SafeId
  split <;> infer_instance

section Calls

variable (control : Control) (request : GroupRequest)

/-- `_validated_request`. -/
def validatedRequest : Except RolloutError Unit := do
  require (request.authorityId ∈ control.authorisedPrincipalIds)
    (.rollout "authority" "rollout authority is not authorised")
  require (request.worldBuild = control.definitionRef)
    (.rollout "definition" "rollout definition reference does not match")
  require (request.taskWorldId = control.definitionRef.taskWorldId)
    (.rollout "task-world" "rollout task world does not match")
  (control.loadProfile request.profileRef).mapError (.rollout "profile")

/-- `validate_storage_identities`. -/
def validateStorageIdentities : Except RolloutError Unit := do
  require (SafeId request.groupId) (.rollout "unsafe-identity" "invalid group id")
  require (∀ child ∈ request.children, SafeId child.childId)
    (.rollout "unsafe-identity" "invalid child id")

/-- `_verify_origin`. -/
def verifyOrigin : Except RolloutError Origin := do
  let origin ← control.port.verifyOrigin request
  require (origin.parentSnapshot = request.parentSnapshot ∧
      origin.parentManifestContentSha256 = request.parentManifestContentSha256 ∧
      origin.originVerificationContentSha256 = request.originVerificationContentSha256)
    (.rollout "origin-verification" "branch port returned another origin")
  require (origin.ancestorWorldBranchIds ≠ [])
    (.rollout "origin-verification" "branch ancestry is empty")
  require origin.ancestorWorldBranchIds.Nodup
    (.rollout "origin-verification" "branch ancestry contains a cycle")
  require (origin.ancestorWorldBranchIds.getLast? = some request.parentSnapshot.worldBranchId)
    (.rollout "origin-verification" "branch ancestry does not end at the parent")
  return origin

/-- What a call does before it takes a lock: whether its request is valid, and its origin. -/
def admitRequest : Except RolloutError Origin := do
  validatedRequest control request
  validateStorageIdentities request
  verifyOrigin control request

/-- The two requirements on a receipt, and its verification by the port. -/
def checkReceipt (child : ChildRequest) (ancestors : List NonEmptyStr) (receipt : ChildReceipt) :
    Except RolloutError Unit := do
  require (ReceiptMatchesChild receipt request child)
    (.rollout "child-receipt-integrity" child.childId.val)
  require (receipt.ancestorWorldBranchIds = ancestors)
    (.rollout "child-lineage" receipt.childId.val)
  control.port.verifyChild request child receipt

/-- `_receipt_from_materialization`. -/
def receiptFromMaterialization (child : ChildRequest) (materialization : Materialization) :
    Except RolloutError ChildReceipt :=
  let receipt : ChildReceipt :=
    { groupId := request.groupId
      childId := child.childId
      childRequestContentSha256 := child.contentSha256
      parentSnapshot := request.parentSnapshot
      initialSnapshot := materialization.initialSnapshot
      childManifestContentSha256 := materialization.childManifestContentSha256
      taskBranchReceiptContentSha256 := materialization.taskBranchReceiptContentSha256
      ancestorWorldBranchIds := materialization.ancestorWorldBranchIds }
  match receiptError receipt with
  | some message => .error (.invalid message)
  | none => .ok receipt

/-- The receipt of a child that is materialised. -/
def materializeChild (origin : Origin) (child : ChildRequest) :
    Except RolloutError ChildReceipt := do
  let materialization ← control.port.materializeChild request child origin
  require (materialization.ancestorWorldBranchIds = origin.ancestorWorldBranchIds)
    (.rollout "child-lineage"
      "branch port returned ancestry that differs from the verified origin")
  let receipt ← receiptFromMaterialization request child materialization
  checkReceipt control request child origin.ancestorWorldBranchIds receipt
  return receipt

/-! ## The files of a group -/

/-- The files of a group. -/
structure Files where
  request : Option GroupRequest := none
  childRequests : NonEmptyStr → Option ChildRequest := fun _ => none
  childReceipts : NonEmptyStr → Option ChildReceipt := fun _ => none
  lineage : Option Lineage := none

def requestPath (groupId : NonEmptyStr) : String := s!"groups/{groupId.val}/request.json"

def lineagePath (groupId : NonEmptyStr) : String := s!"groups/{groupId.val}/lineage.json"

def childRequestPath (groupId childId : NonEmptyStr) : String :=
  s!"groups/{groupId.val}/children/{childId.val}/request.json"

def childReceiptPath (groupId childId : NonEmptyStr) : String :=
  s!"groups/{groupId.val}/children/{childId.val}/receipt.json"

/-- `_publish`: the first writer of a file creates it, and a later one has to bring the same
content. -/
def publish {α : Type} [DecidableEq α] (stored : Option α) (value : α) (code path : String) :
    Except RolloutError (Option α) :=
  match stored with
  | none => .ok (some value)
  | some other => if other = value then .ok stored else .error (.rollout code path)

/-- `_load`, of a file that may be missing. -/
def load {α : Type} (stored : Option α) (path : String) : Except RolloutError α :=
  match stored with
  | none => .error (.rollout "artifact-integrity" path)
  | some value => .ok value

/-- `_require_persisted_child_requests`. -/
def requirePersistedChildRequests (files : Files) : Except RolloutError Unit :=
  request.children.forM fun child =>
    require (files.childRequests child.childId = some child)
      (.rollout "child-request-integrity" child.childId.val)

/-- The requirements of `_publish_or_load_child_receipt` on the receipt that it was handed. -/
def checkCandidate (origin : Origin) (child : ChildRequest) (candidate : ChildReceipt) :
    Except RolloutError Unit := do
  require (ReceiptMatchesChild candidate request child)
    (.rollout "child-receipt-integrity" child.childId.val)
  require (candidate.ancestorWorldBranchIds = origin.ancestorWorldBranchIds)
    (.rollout "child-lineage" candidate.childId.val)

/-- The receipt that it leaves in the group: the stored one, or the candidate, once it is
verified. -/
def publishChildReceipt (files : Files) (origin : Origin) (child : ChildRequest)
    (candidate : ChildReceipt) : Except RolloutError ChildReceipt := do
  checkCandidate request origin child candidate
  match files.childReceipts child.childId with
  | some receipt => return receipt
  | none =>
    control.port.verifyChild request child candidate
    return candidate

/-- The construction of a lineage. -/
def buildLineage (receipts : List ChildReceipt) : Except RolloutError Lineage :=
  match lineageError (lineageOf request receipts) with
  | some message => .error (.invalid message)
  | none => .ok (lineageOf request receipts)

/-- The receipt of a child in a complete lineage is the stored one. -/
def checkStoredReceipt (files : Files) (child : ChildRequest) (receipt : ChildReceipt) :
    Except RolloutError Unit := do
  let stored ← load (files.childReceipts child.childId)
    (childReceiptPath request.groupId child.childId)
  require (stored = receipt) (.rollout "child-receipt-integrity" child.childId.val)
  require (ReceiptMatchesChild stored request child)
    (.rollout "child-receipt-integrity" child.childId.val)

/-- `_load_complete_lineage`. -/
def loadCompleteLineage (files : Files) : Except RolloutError Lineage :=
  match files.lineage with
  | none => .error (.rollout "group-not-ready" request.groupId.val)
  | some lineage => do
    require (LineageMatchesRequest lineage request)
      (.rollout "lineage-integrity" request.groupId.val)
    require (lineage.children.map (·.childId) = request.children.map (·.childId))
      (.rollout "lineage-integrity" "child order differs from the request")
    requirePersistedChildRequests request files
    (request.children.zip lineage.children).forM fun pair =>
      checkStoredReceipt request files pair.1 pair.2
    return lineage

/-- `_verify_persisted_children`, of a lineage whose children are in order. -/
def verifyPersistedChildren (origin : Origin) (lineage : Lineage) : Except RolloutError Unit :=
  (request.children.zip lineage.children).forM fun pair =>
    checkReceipt control request pair.1 origin.ancestorWorldBranchIds pair.2

/-- What a call returns that finds a lineage. -/
def replay (files : Files) (origin : Origin) : Except RolloutError Lineage := do
  let lineage ← loadCompleteLineage request files
  verifyPersistedChildren control request origin lineage
  return lineage

/-! ## Calls -/

/-- Where a call is. -/
inductive Place
  | called
  | verified (origin : Origin)
  | requesting (origin : Origin)
  | probing (origin : Origin)
  | replaying (origin : Origin)
  | reserving (origin : Origin) (rest : List ChildRequest)
  | waiting (origin : Origin) (candidates : List ChildReceipt) (rest : List ChildRequest)
  | loading (origin : Origin) (candidates : List ChildReceipt) (child : ChildRequest)
      (rest : List ChildRequest)
  | materializing (origin : Origin) (candidates : List ChildReceipt) (child : ChildRequest)
      (rest : List ChildRequest)
  | gathered (origin : Origin) (candidates : List ChildReceipt)
  | confirming (origin : Origin) (candidates : List ChildReceipt)
  | publishing (origin : Origin) (receipts : List ChildReceipt)
      (rest : List (ChildRequest × ChildReceipt))
  | checking (origin : Origin) (receipts : List ChildReceipt) (child : ChildRequest)
      (rest : List (ChildRequest × ChildReceipt))
  | concluding (receipts : List ChildReceipt)
  | returning
  | returned (lineage : Lineage)
  | raised (error : RolloutError)
  | crashed
  deriving DecidableEq

/-- The call has ended. -/
def Place.Ended : Place → Prop
  | .returned _ | .raised _ | .crashed => True
  | _ => False

instance : DecidablePred Place.Ended := fun place => by
  unfold Place.Ended
  split <;> infer_instance

/-- The step of a call: it goes on, or stops for good. -/
inductive Action
  | advance
  | crash

/-- The files of a group, the lock of the group, and the locks of its children. -/
structure Group (ι : Type) where
  files : Files := {}
  groupLock : Option ι := none
  childLock : NonEmptyStr → Option ι := fun _ => none

variable {ι : Type} [DecidableEq ι]

/-- The lock of the group is given back. -/
def Group.unlock (group : Group ι) : Group ι := { group with groupLock := none }

/-- The lock of a child is given back. -/
def Group.unlockChild (group : Group ι) (childId : NonEmptyStr) : Group ι :=
  { group with childLock := Function.update group.childLock childId none }

/-- A process that ends gives its locks back. -/
def Group.release (group : Group ι) (i : ι) : Group ι :=
  { group with
    groupLock := if group.groupLock = some i then none else group.groupLock
    childLock := fun childId =>
      if group.childLock childId = some i then none else group.childLock childId }

/-- One step of `create_group`. A step in front of a lock that is taken waits. -/
def advance (i : ι) (group : Group ι) (place : Place) : Group ι × Place :=
  let files := group.files
  match place with
  | .called =>
    match admitRequest control request with
    | .error e => (group, .raised e)
    | .ok origin => (group, .verified origin)
  | .verified origin =>
    match group.groupLock with
    | some _ => (group, .verified origin)
    | none => ({ group with groupLock := some i }, .requesting origin)
  | .requesting origin =>
    match publish files.request request "request-conflict" (requestPath request.groupId) with
    | .error e => (group.unlock, .raised e)
    | .ok stored => ({ group with files := { files with request := stored } }, .probing origin)
  | .probing origin =>
    match files.lineage with
    | some _ => (group, .replaying origin)
    | none => (group, .reserving origin request.children)
  | .replaying origin =>
    match replay control request files origin with
    | .error e => (group.unlock, .raised e)
    | .ok lineage => (group.unlock, .returned lineage)
  | .reserving origin [] => (group.unlock, .waiting origin [] request.children)
  | .reserving origin (child :: rest) =>
    match publish (files.childRequests child.childId) child "child-request-conflict"
        (childRequestPath request.groupId child.childId) with
    | .error e => (group.unlock, .raised e)
    | .ok stored =>
      ({ group with files := { files with
          childRequests := Function.update files.childRequests child.childId stored } },
        .reserving origin rest)
  | .waiting origin candidates [] => (group, .gathered origin candidates)
  | .waiting origin candidates (child :: rest) =>
    match group.childLock child.childId with
    | some _ => (group, .waiting origin candidates (child :: rest))
    | none =>
      ({ group with childLock := Function.update group.childLock child.childId (some i) },
        .loading origin candidates child rest)
  | .loading origin candidates child rest =>
    match files.childReceipts child.childId with
    | none => (group, .materializing origin candidates child rest)
    | some receipt =>
      match checkReceipt control request child origin.ancestorWorldBranchIds receipt with
      | .error e => (group.unlockChild child.childId, .raised e)
      | .ok _ => (group.unlockChild child.childId, .waiting origin (candidates ++ [receipt]) rest)
  | .materializing origin candidates child rest =>
    match materializeChild control request origin child with
    | .error e => (group.unlockChild child.childId, .raised e)
    | .ok candidate =>
      (group.unlockChild child.childId, .waiting origin (candidates ++ [candidate]) rest)
  | .gathered origin candidates =>
    match group.groupLock with
    | some _ => (group, .gathered origin candidates)
    | none => ({ group with groupLock := some i }, .confirming origin candidates)
  | .confirming origin candidates =>
    match publish files.request request "request-conflict" (requestPath request.groupId) with
    | .error e => (group.unlock, .raised e)
    | .ok stored =>
      match requirePersistedChildRequests request files with
      | .error e => ({ group.unlock with files := { files with request := stored } }, .raised e)
      | .ok _ =>
        ({ group with files := { files with request := stored } },
          .publishing origin [] (request.children.zip candidates))
  | .publishing _ receipts [] => (group, .concluding receipts)
  | .publishing origin receipts ((child, candidate) :: rest) =>
    match publishChildReceipt control request files origin child candidate with
    | .error e => (group.unlock, .raised e)
    | .ok receipt =>
      ({ group with files := { files with
          childReceipts := Function.update files.childReceipts child.childId (some receipt) } },
        .checking origin receipts child rest)
  | .checking origin receipts child rest =>
    match load (files.childReceipts child.childId)
        (childReceiptPath request.groupId child.childId) with
    | .error e => (group.unlock, .raised e)
    | .ok receipt =>
      match checkReceipt control request child origin.ancestorWorldBranchIds receipt with
      | .error e => (group.unlock, .raised e)
      | .ok _ => (group, .publishing origin (receipts ++ [receipt]) rest)
  | .concluding receipts =>
    match buildLineage request receipts with
    | .error e => (group.unlock, .raised e)
    | .ok lineage =>
      match publish files.lineage lineage "lineage-conflict" (lineagePath request.groupId) with
      | .error e => (group.unlock, .raised e)
      | .ok stored => ({ group with files := { files with lineage := stored } }, .returning)
  | .returning =>
    match loadCompleteLineage request files with
    | .error e => (group.unlock, .raised e)
    | .ok lineage => (group.unlock, .returned lineage)
  | .returned lineage => (group, .returned lineage)
  | .raised e => (group, .raised e)
  | .crashed => (group, .crashed)

end Calls

variable {ι : Type} [DecidableEq ι]

/-- One step of a call that goes on or crashes; a call that has ended stays as it is. -/
def stepCall (control : Control) (request : GroupRequest) (i : ι) (group : Group ι)
    (place : Place) : Action → Group ι × Place
  | .advance => advance control request i group place
  | .crash => if place.Ended then (group, place) else (group.release i, .crashed)

/-- The calls that create one group; call `i` has the request `requests i`. -/
def createGroup (control : Control) (requests : ι → GroupRequest) :
    Interleaving ι (Group ι) Place Action :=
  ⟨fun i group place action => stepCall control (requests i) i group place action⟩

end AecBench.Worlds.Rollout
