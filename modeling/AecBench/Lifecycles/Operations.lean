import AecBench.Lib.Sorting
import AecBench.Lifecycles.Requests

/-!
# Operations of a running checkpoint

An operation computes new evidence from the current source. What it would compute is planned by the
resolver of the task, from all actions of the run; an operation whose plan was carried out before is
current and costs nothing.

## Main definitions

* `OperationResolver` — the resolver of a task.
* `operationCatalog` — the catalogue, with the status of every declared operation.
* `decideOperation` — the verdict on a request; `executeLifecycleOperation` — the request with its
  checks and its record.

## Main results

* `executeLifecycleOperation_atWork` — a request of the session at work is recorded under its
  verdict.
* `status_decideOperation` — the verdict on a declared operation is the one its status in the
  catalogue announces.
-/

namespace AecBench.Lifecycles

open Validation Contracts

/-! ### The resolver of a task -/

/-- The current source; `sourceState` is its JSON. -/
structure LifecycleOperationSourceContext where
  revisionId : String
  physicalSourceStateSha256 : String
  visibleSourceStateSha256 : String
  sourceState : String

structure LifecycleOperationPlan where
  operationId : String
  operationKind : String
  disposition : LifecycleOperationDisposition
  sourceBefore : LifecycleOperationSourceContext
  sourceAfter : LifecycleOperationSourceContext
  inputProjectionSha256 : String
  prerequisiteActionIds : List String
  modelVisibleArtifactPaths : List String
  payload : String

/-- What a resolver raises: a missing prerequisite, or anything else. -/
inductive ResolverException
  | prerequisite
  | other (message : String)

/-- The resolver of a task: the source after some actions, the plan of an operation after them, and
the files that carrying out a plan leaves behind, with their digests. -/
structure OperationResolver where
  currentSource : List LifecycleOperationActionRecord → LifecycleOperationSourceContext
  plan : LifecycleOperationSpec → List LifecycleOperationActionRecord →
    Except ResolverException LifecycleOperationPlan
  execute : LifecycleOperationPlan → Except String (List (String × String))

/-- `_all_operation_actions(state)`. -/
def EvidenceLifecycleRunState.allOperationActions (state : EvidenceLifecycleRunState) :
    List LifecycleOperationActionRecord :=
  Table.sortBy (·.sequence) state.operationActions

/-- `_completed_operation_ids(actions)`. -/
def completedOperationIds (actions : List LifecycleOperationActionRecord) : List String :=
  (actions.filter fun action =>
    action.outcome = .completed ∨ action.outcome = .alreadyCurrent).map (·.operationId)

/-- `current_lifecycle_operation_action(actions, plan)`. -/
def currentLifecycleOperationAction (actions : List LifecycleOperationActionRecord)
    (plan : LifecycleOperationPlan) : Option LifecycleOperationActionRecord :=
  actions.reverse.find? fun action =>
    action.operationId = plan.operationId ∧ action.outcome = .completed ∧
      action.inputProjectionSha256 = plan.inputProjectionSha256 ∧
      action.prerequisiteActionIds = plan.prerequisiteActionIds

/-! ### The catalogue -/

inductive OperationStatus
  | available
  | currentOrReusable
  | budgetExhausted
  | prerequisitesIncomplete
  deriving DecidableEq

/-- The status of an operation in the catalogue. -/
def operationStatus (resolver : OperationResolver) (budgetRemaining : ℕ)
    (actions : List LifecycleOperationActionRecord) (operation : LifecycleOperationSpec) :
    Except LifecycleException OperationStatus :=
  if ¬ operation.prerequisiteOperationIds ⊆ completedOperationIds actions then
    .ok .prerequisitesIncomplete
  else
    match resolver.plan operation actions with
    | .error .prerequisite => .ok .prerequisitesIncomplete
    | .error (.other message) => .error (.evidenceLifecycleError message)
    | .ok plan =>
      if (currentLifecycleOperationAction actions plan).isSome then .ok .currentOrReusable
      else if budgetRemaining = 0 then .ok .budgetExhausted
      else .ok .available

/-- The catalogue of operations, every declared operation with its status. -/
structure OperationCatalog where
  checkpointId : String
  operationBudget : ℕ
  remainingBudget : ℕ
  visibleSourceStateSha256 : String
  operations : List (LifecycleOperationSpec × OperationStatus)

/-- `_operation_catalog_payload`, for the checkpoint as it stands. -/
def operationCatalog (resolver : OperationResolver) (state : EvidenceLifecycleRunState)
    (checkpoint : EvidenceCheckpointSpec) (checkpointRun : CheckpointRunRecord) :
    Except LifecycleException (Option OperationCatalog) :=
  match checkpoint.conditionalOperations with
  | none => .ok none
  | some conditional => do
    let operations ← conditional.operations.mapM fun operation => do
      let status ← operationStatus resolver checkpointRun.operationBudgetRemaining
        state.allOperationActions operation
      return (operation, status)
    return some
      { checkpointId := checkpoint.checkpointId
        operationBudget := checkpointRun.operationBudget
        remainingBudget := checkpointRun.operationBudgetRemaining
        visibleSourceStateSha256 :=
          (resolver.currentSource state.allOperationActions).visibleSourceStateSha256
        operations }

/-! ### The verdict -/

/-- What becomes of a request for an operation. -/
inductive OperationVerdict
  | completed (plan : LifecycleOperationPlan)
  | alreadyCurrent (plan : LifecycleOperationPlan) (prior : LifecycleOperationActionRecord)
  | rejected (rejection : LifecycleOperationRejection)

/-- The rest of the decision, for a declared operation and the current source. -/
def decideDeclaredOperation (resolver : OperationResolver) (budgetRemaining : ℕ)
    (actions : List LifecycleOperationActionRecord) (operation : LifecycleOperationSpec) :
    Except LifecycleException OperationVerdict :=
  if ¬ operation.prerequisiteOperationIds ⊆ completedOperationIds actions then
    .ok (.rejected .prerequisitesIncomplete)
  else
    match resolver.plan operation actions with
    | .error .prerequisite => .ok (.rejected .prerequisitesIncomplete)
    | .error (.other message) => .error (.evidenceLifecycleError message)
    | .ok plan =>
      match currentLifecycleOperationAction actions plan with
      | some prior => .ok (.alreadyCurrent plan prior)
      | none =>
        if budgetRemaining = 0 then .ok (.rejected .budgetExhausted)
        else .ok (.completed plan)

/-- The decisions of `_execute_lifecycle_operation_locked`, with the kind of the operation. -/
def decideOperation (resolver : OperationResolver) (state : EvidenceLifecycleRunState)
    (checkpoint : EvidenceCheckpointSpec) (checkpointRun : CheckpointRunRecord)
    (requestedCheckpointId operationId visibleSourceStateSha256 : String) :
    Except LifecycleException (String × OperationVerdict) :=
  if requestedCheckpointId ≠ checkpoint.checkpointId then
    .ok ("unknown", .rejected .inactiveCheckpoint)
  else
    match checkpoint.conditionalOperations with
    | none => .ok ("unknown", .rejected .notSupported)
    | some conditional =>
      match conditional.operations.find? (·.operationId = operationId) with
      | none => .ok ("unknown", .rejected .unknownOperation)
      | some operation =>
        if visibleSourceStateSha256 ≠
            (resolver.currentSource state.allOperationActions).visibleSourceStateSha256 then
          .ok (operation.kind, .rejected .staleVisibleSource)
        else do
          let verdict ← decideDeclaredOperation resolver checkpointRun.operationBudgetRemaining
            state.allOperationActions operation
          return (operation.kind, verdict)

/-! ### The record of an operation -/

/-- What is hashed for the record of an operation. -/
inductive OperationPayload
  | request (actionId checkpointId operationId visibleSourceStateSha256 reason : String)
  | rejection (operationId suppliedVisibleSourceSha256 : String)
  | manifest (actionId operationId inputProjectionSha256 : String)
      (source : LifecycleOperationSourceContext) (prerequisiteActionIds : List String)
      (artifactSha256 : List (String × String))
  | actionState (lifecycleId packageSha256 checkpointId : String)
      (source : LifecycleOperationSourceContext) (operationBudgetRemaining : ℕ)
      (completed : List LifecycleOperationActionRecord)

/-- The resolver of a task with the digest of payloads. -/
structure OperationHost extends OperationResolver where
  digest : OperationPayload → String

/-- `Path(path).as_posix()` of a relative path. -/
def asPosix (path : String) : String :=
  if pathParts path = [] then "." else "/".intercalate (pathParts path)

/-- The checks of the paths a plan shows to the model. -/
def validatedVisibleArtifactPaths (plan : LifecycleOperationPlan)
    (artifactHashes : List (String × String)) : Except LifecycleException (List String) := do
  let declared := plan.modelVisibleArtifactPaths
  require (declared ≠ [])
    (.evidenceLifecycleError "completed operation must declare a model-visible artifact")
  require declared.Nodup
    (.evidenceLifecycleError "model-visible operation artifact paths must be unique")
  declared.forM fun relative => do
    require (isAbsolutePath relative = false ∧ ".." ∉ pathParts relative ∧
        asPosix relative = relative)
      (.evidenceLifecycleError "model-visible operation artifact path is unsafe")
    require (relative ∈ artifactHashes.map Prod.fst)
      (.evidenceLifecycleError "model-visible operation artifact was not produced")
  return declared

/-- The artifacts of an operation that was carried out, in the order of their paths. -/
def operationArtifacts (actionId checkpointId : String) (artifactHashes : List (String × String))
    (visible : List String) : List LifecycleOperationArtifact :=
  (artifactHashes.insertionSort fun a b => a.1 ≤ b.1).map fun (relative, sha256) =>
    { path := "lifecycle_operations/" ++ actionId ++ "/artifacts/" ++ relative
      workspacePath :=
        if relative ∈ visible then
          some ("inbox/" ++ checkpointId ++ "/operations/" ++ actionId ++ "/" ++ relative)
        else none
      sha256 }

/-- What the verdict decides of a record. -/
structure OperationEffect where
  outcome : LifecycleOperationOutcome
  rejection : Option LifecycleOperationRejection
  disposition : Option LifecycleOperationDisposition
  sourceAfter : LifecycleOperationSourceContext
  inputProjectionSha256 : String
  prerequisiteActionIds : List String
  resultManifestSha256 : Option String
  retainedFromActionId : Option String
  artifacts : List LifecycleOperationArtifact
  budgetConsumed : Fin 2

/-- Carry out a verdict: a plan that is not current is executed. -/
def carryOut (host : OperationHost) (actionId checkpointId operationId : String)
    (suppliedVisibleSourceSha256 : String) (source : LifecycleOperationSourceContext) :
    OperationVerdict → Except LifecycleException OperationEffect
  | .rejected rejection =>
    .ok
      { outcome := .rejected, rejection := some rejection, disposition := none
        sourceAfter := source
        inputProjectionSha256 := host.digest (.rejection operationId suppliedVisibleSourceSha256)
        prerequisiteActionIds := [], resultManifestSha256 := none, retainedFromActionId := none
        artifacts := [], budgetConsumed := ⟨0, Nat.two_pos⟩ }
  | .alreadyCurrent plan prior =>
    .ok
      { outcome := .alreadyCurrent, rejection := none, disposition := some .reused
        sourceAfter := plan.sourceAfter
        inputProjectionSha256 := plan.inputProjectionSha256
        prerequisiteActionIds := plan.prerequisiteActionIds, resultManifestSha256 := none
        retainedFromActionId := some prior.actionId, artifacts := prior.artifacts
        budgetConsumed := ⟨0, Nat.two_pos⟩ }
  | .completed plan => do
    let artifactHashes ← (host.execute plan).mapError .evidenceLifecycleError
    require (artifactHashes ≠ [])
      (.evidenceLifecycleError "completed operation must produce at least one artifact")
    let visible ← validatedVisibleArtifactPaths plan artifactHashes
    .ok
      { outcome := .completed, rejection := none, disposition := some plan.disposition
        sourceAfter := plan.sourceAfter
        inputProjectionSha256 := plan.inputProjectionSha256
        prerequisiteActionIds := plan.prerequisiteActionIds
        resultManifestSha256 := some (host.digest (.manifest actionId operationId
          plan.inputProjectionSha256 plan.sourceAfter plan.prerequisiteActionIds artifactHashes))
        retainedFromActionId := none
        artifacts := operationArtifacts actionId checkpointId artifactHashes visible
        budgetConsumed := ⟨1, Nat.one_lt_two⟩ }

/-- `lifecycle_operation_state_sha256`. -/
def OperationHost.stateSha256 (host : OperationHost) (state : EvidenceLifecycleRunState)
    (checkpointId : String) (source : LifecycleOperationSourceContext) (budgetRemaining : ℕ)
    (actions : List LifecycleOperationActionRecord) : String :=
  host.digest (.actionState state.lifecycleId state.packageSha256 checkpointId source
    budgetRemaining (actions.filter (·.outcome = .completed)))

/-- The checkpoint after an action. -/
def CheckpointRunRecord.withOperationAction (action : LifecycleOperationActionRecord)
    (checkpointRun : CheckpointRunRecord) : CheckpointRunRecord :=
  { checkpointRun with
    operationBudgetRemaining := action.budgetAfter
    operationActions := checkpointRun.operationActions ++ [action] }

/-- The text of an outcome. -/
def LifecycleOperationOutcome.text : LifecycleOperationOutcome → String
  | .completed => "completed"
  | .alreadyCurrent => "already_current"
  | .rejected => "rejected"

/-- The action of a request for an operation. -/
def operationAction (host : OperationHost) (state : EvidenceLifecycleRunState)
    (checkpointRun : CheckpointRunRecord) (attempt : CheckpointAttemptRecord)
    (source : LifecycleOperationSourceContext)
    (requestedCheckpointId operationId operationKind visibleSourceStateSha256 reason : String)
    (effect : OperationEffect) : LifecycleOperationActionRecord :=
  let sequence := state.allOperationActions.length + 1
  let actionId := operationActionId sequence
  let budgetAfter := checkpointRun.operationBudgetRemaining - effect.budgetConsumed.val
  let action : LifecycleOperationActionRecord :=
    { actionId, sequence
      checkpointId := checkpointRun.checkpointId
      requestedCheckpointId, operationId, operationKind, reason
      sessionId := attempt.sessionId
      attemptId := attempt.attemptId
      outcome := effect.outcome
      rejection := effect.rejection
      disposition := effect.disposition
      visibleSourceStateBeforeSha256 := source.visibleSourceStateSha256
      visibleSourceStateAfterSha256 := effect.sourceAfter.visibleSourceStateSha256
      physicalSourceStateBeforeSha256 := source.physicalSourceStateSha256
      physicalSourceStateAfterSha256 := effect.sourceAfter.physicalSourceStateSha256
      inputProjectionSha256 := effect.inputProjectionSha256
      requestSha256 := host.digest (.request actionId requestedCheckpointId operationId
        visibleSourceStateSha256 reason)
      resultManifestSha256 := effect.resultManifestSha256
      prerequisiteActionIds := effect.prerequisiteActionIds
      retainedFromActionId := effect.retainedFromActionId
      preActionStateSha256 := host.stateSha256 state checkpointRun.checkpointId source
        checkpointRun.operationBudgetRemaining state.allOperationActions
      postActionStateSha256 := "".pushn '0' 64
      artifacts := effect.artifacts
      budgetBefore := checkpointRun.operationBudgetRemaining
      budgetConsumed := effect.budgetConsumed
      budgetAfter }
  let updated := state.assignCheckpoint checkpointRun.checkpointId
    (CheckpointRunRecord.withOperationAction action)
  { action with
    postActionStateSha256 := host.stateSha256 state checkpointRun.checkpointId effect.sourceAfter
      budgetAfter updated.allOperationActions }

/-- `_publish_operation_action`. -/
def publishOperationAction (host : OperationHost) (state : EvidenceLifecycleRunState)
    (checkpointRun : CheckpointRunRecord) (attempt : CheckpointAttemptRecord)
    (requestedCheckpointId operationId operationKind visibleSourceStateSha256 reason : String)
    (verdict : OperationVerdict) :
    Except LifecycleException (LifecycleOperationActionRecord × EvidenceLifecycleRunState) := do
  let source := host.currentSource state.allOperationActions
  let actionId := operationActionId (state.allOperationActions.length + 1)
  let effect ← carryOut host actionId checkpointRun.checkpointId operationId
    visibleSourceStateSha256 source verdict
  let action := operationAction host state checkpointRun attempt source requestedCheckpointId
    operationId operationKind visibleSourceStateSha256 reason effect
  let updated := state.assignCheckpoint checkpointRun.checkpointId
    (CheckpointRunRecord.withOperationAction action)
  return (action, updated.withTransition .operation (some checkpointRun.checkpointId)
    (some checkpointRun.checkpointId)
    ("Lifecycle operation " ++ effect.outcome.text ++ "."))

/-- `execute_lifecycle_operation`: the checks of the caller, the verdict and its record. A request
that names no source means the current one. -/
def executeLifecycleOperation (host : OperationHost) (spec : EvidenceLifecycleSpec)
    (checkpointId : Option String) (operationId : String)
    (visibleSourceStateSha256 : Option String) (reason sessionId : String)
    (state : EvidenceLifecycleRunState) :
    Except LifecycleException (LifecycleOperationActionRecord × EvidenceLifecycleRunState) := do
  require (¬ Text.Blank operationId ∧ ¬ Text.Blank reason ∧ ¬ Text.Blank sessionId ∧
      (∀ id ∈ checkpointId, ¬ Text.Blank id) ∧
      ∀ sha256 ∈ visibleSourceStateSha256, ¬ Text.Blank sha256)
    (.evidenceLifecycleError
      "operation checkpoint, id, visible source hash, reason, and session must not be blank")
  require (∀ sha256 ∈ visibleSourceStateSha256, Text.HexDigest sha256) (.evidenceLifecycleError
    "visible source state sha256 must contain 64 lowercase hexadecimal characters")
  let requestedCheckpointId ← orRaise (checkpointId <|> state.activeCheckpointId)
    "no checkpoint is awaiting operations"
  let visible := visibleSourceStateSha256.getD
    (host.currentSource state.allOperationActions).visibleSourceStateSha256
  let activeCheckpointId ← orRaise state.activeCheckpointId "no checkpoint is active"
  let checkpoint ← specCheckpoint spec activeCheckpointId
  let checkpointRun ← state.checkpoint activeCheckpointId
  let attempt ← orRaise checkpointRun.activeAttempt "no checkpoint attempt is active"
  require (attempt.sessionId = sessionId) (.evidenceLifecycleError
    ("active attempt belongs to " ++ attempt.sessionId ++ "; cannot execute operation from " ++
      sessionId))
  let (operationKind, verdict) ← decideOperation host.toOperationResolver state checkpoint
    checkpointRun requestedCheckpointId operationId visible
  publishOperationAction host state checkpointRun attempt requestedCheckpointId operationId
    operationKind visible reason verdict

/-! ### Requests against the catalogue -/

/-- The status under which a verdict is announced. -/
def OperationVerdict.status : OperationVerdict → Option OperationStatus
  | .completed _ => some .available
  | .alreadyCurrent _ _ => some .currentOrReusable
  | .rejected .prerequisitesIncomplete => some .prerequisitesIncomplete
  | .rejected .budgetExhausted => some .budgetExhausted
  | .rejected _ => none

section Verdicts

variable {resolver : OperationResolver} {state : EvidenceLifecycleRunState}
  {checkpoint : EvidenceCheckpointSpec} {conditional : ConditionalOperationSpec}
  {checkpointRun : CheckpointRunRecord} {operation : LifecycleOperationSpec}

lemma find?_operation (hunique : conditional.graph.ids.Nodup)
    (hoperation : operation ∈ conditional.operations) :
    conditional.operations.find? (·.operationId = operation.operationId) = some operation := by
  rw [ConditionalOperationSpec.graph, Graph.ids, List.map_map] at hunique
  have hkeyed : Table.Keyed (·.operationId) conditional.operations := hunique
  exact hkeyed.lookup_of_mem hoperation

lemma status_decideDeclaredOperation (resolver : OperationResolver)
    (operation : LifecycleOperationSpec) (budgetRemaining : ℕ)
    (actions : List LifecycleOperationActionRecord) :
    (decideDeclaredOperation resolver budgetRemaining actions operation).map
        OperationVerdict.status =
      (operationStatus resolver budgetRemaining actions operation).map some := by
  rw [decideDeclaredOperation, operationStatus]
  by_cases hneeded : operation.prerequisiteOperationIds ⊆ completedOperationIds actions
  swap
  · simp only [if_pos hneeded]
    rfl
  simp only [if_neg (not_not_intro hneeded)]
  cases resolver.plan operation actions with
  | error exception =>
    cases exception with
    | prerequisite | other message => rfl
  | ok plan =>
    cases hcurrent : currentLifecycleOperationAction actions plan with
    | some prior =>
      simp only [Option.isSome_some, if_pos, hcurrent]
      rfl
    | none =>
      simp only [Option.isSome_none, Bool.false_eq_true, if_false, hcurrent]
      by_cases hbudget : budgetRemaining = 0
      · simp only [if_pos hbudget]
        rfl
      · simp only [if_neg hbudget]
        rfl

/-- **The verdict on a declared operation** is the one that its status announces, for a request
that means the current source. -/
theorem status_decideOperation (resolver : OperationResolver)
    (state : EvidenceLifecycleRunState) (checkpointRun : CheckpointRunRecord)
    (hconditional : checkpoint.conditionalOperations = some conditional)
    (hunique : conditional.graph.ids.Nodup) (hoperation : operation ∈ conditional.operations) :
    (decideOperation resolver state checkpoint checkpointRun checkpoint.checkpointId
        operation.operationId
        (resolver.currentSource state.allOperationActions).visibleSourceStateSha256).map
          (fun decision => (decision.1, decision.2.status)) =
      (operationStatus resolver checkpointRun.operationBudgetRemaining state.allOperationActions
        operation).map fun status => (operation.kind, some status) := by
  simp only [decideOperation, ne_eq, not_true_eq_false, if_false, hconditional,
    find?_operation hunique hoperation]
  have hstatus := status_decideDeclaredOperation resolver operation
    checkpointRun.operationBudgetRemaining state.allOperationActions
  cases hdecided : decideDeclaredOperation resolver checkpointRun.operationBudgetRemaining
      state.allOperationActions operation with
  | error exception =>
    rw [hdecided] at hstatus
    cases hannounced : operationStatus resolver checkpointRun.operationBudgetRemaining
        state.allOperationActions operation with
    | error exception' =>
      rw [hannounced] at hstatus
      exact congrArg Except.error (Except.error.inj hstatus)
    | ok status =>
      rw [hannounced] at hstatus
      cases hstatus
  | ok verdict =>
    rw [hdecided] at hstatus
    cases hannounced : operationStatus resolver checkpointRun.operationBudgetRemaining
        state.allOperationActions operation with
    | error exception =>
      rw [hannounced] at hstatus
      cases hstatus
    | ok status =>
      rw [hannounced] at hstatus
      exact congrArg (fun s => Except.ok (operation.kind, s)) (Except.ok.inj hstatus)

end Verdicts

section Request

variable {host : OperationHost} {spec : EvidenceLifecycleSpec}
  {state : EvidenceLifecycleRunState} {checkpoint : EvidenceCheckpointSpec}
  {checkpointRun : CheckpointRunRecord} {attempt : CheckpointAttemptRecord}
  {operationId reason : String}

/-- **A request of the session at work** is recorded under its verdict. -/
theorem executeLifecycleOperation_atWork (h : AtWork spec state checkpoint checkpointRun attempt)
    (hid : ¬ Text.Blank operationId) (hreason : ¬ Text.Blank reason)
    (hsession : ¬ Text.Blank attempt.sessionId) :
    executeLifecycleOperation host spec none operationId none reason attempt.sessionId state =
      decideOperation host.toOperationResolver state checkpoint checkpointRun
          checkpoint.checkpointId operationId
          (host.currentSource state.allOperationActions).visibleSourceStateSha256 >>=
        fun decision => publishOperationAction host state checkpointRun attempt
          checkpoint.checkpointId operationId decision.1
          (host.currentSource state.allOperationActions).visibleSourceStateSha256 reason
          decision.2 := by
  have hcheckpoint : state.checkpoint checkpoint.checkpointId = .ok checkpointRun :=
    EvidenceLifecycleRunState.checkpoint_eq_ok.mpr h.running
  simp only [executeLifecycleOperation, require, h.active, specCheckpoint, h.declared, hcheckpoint,
    h.attempting, orRaise, Option.elim_some, ok_bind, if_pos]
  rw [if_pos ⟨hid, hreason, hsession, by simp, by simp⟩, if_pos (by simp)]
  rfl

end Request

end AecBench.Lifecycles
