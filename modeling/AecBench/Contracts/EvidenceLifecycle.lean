import Mathlib.Tactic.Common

/-!
# Documents of staged evidence lifecycles

The public contract of a lifecycle package: an ordered list of checkpoints, each with the
evidence requests or the lifecycle operations it offers.

## Main definitions

* `EvidenceLifecycleSpec`, `EvidenceCheckpointSpec` — the lifecycle and its checkpoints.
* `EvidenceCheckpointSpec.requestBudget`, `EvidenceCheckpointSpec.operationBudget` — the budget
  a fresh run starts a checkpoint with.
-/

namespace AecBench.Contracts

structure EvidenceRequestSpec where
  requestId : String
  title : String
  description : String
  prerequisiteRequestIds : List String := []
  deriving DecidableEq

structure ConditionalEvidenceSpec where
  requestBudget : ℕ
  requests : List EvidenceRequestSpec
  deriving DecidableEq

structure LifecycleOperationSpec where
  operationId : String
  kind : String
  title : String
  description : String
  prerequisiteOperationIds : List String := []
  deriving DecidableEq

structure ConditionalOperationSpec where
  operationBudget : ℕ
  operations : List LifecycleOperationSpec
  deriving DecidableEq

structure EvidenceCheckpointSpec where
  checkpointId : String
  title : String
  releasePath : String
  instructionPath : String
  submissionPath : String
  dependsOn : List String := []
  requiredSubmissionFields : List String := ["checkpoint_id"]
  allowAdditionalSubmissionFields : Bool := true
  conditionalEvidence : Option ConditionalEvidenceSpec := none
  conditionalOperations : Option ConditionalOperationSpec := none
  deriving DecidableEq

structure EvidenceLifecycleSpec where
  lifecycleId : String
  checkpoints : List EvidenceCheckpointSpec

/-- `conditional_evidence.request_budget`, or 0 without conditional evidence. -/
def EvidenceCheckpointSpec.requestBudget (checkpoint : EvidenceCheckpointSpec) : ℕ :=
  checkpoint.conditionalEvidence.elim 0 ConditionalEvidenceSpec.requestBudget

/-- `conditional_operations.operation_budget`, or 0 without conditional operations. -/
def EvidenceCheckpointSpec.operationBudget (checkpoint : EvidenceCheckpointSpec) : ℕ :=
  checkpoint.conditionalOperations.elim 0 ConditionalOperationSpec.operationBudget

end AecBench.Contracts
