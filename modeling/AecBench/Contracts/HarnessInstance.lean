import AecBench.Contracts.ExecutionProgram

/-!
# Compiled harnesses

A compiled harness exports operations over its bindings, under a budget and a policy for recursion.
Execution programs are compiled against it.

## Main definitions

* `HarnessBudget`, `HarnessRecursionPolicy` — the bounds of every program of the harness.
* `ProgramOperationSpec`, `ProgramSurface` — the exported operations.
* `CompiledHarnessInstance` — the harness.
* `ExecutionProgram`, `CompiledProgram` — a program for a harness, and what its compilation gives.
-/

namespace AecBench.Contracts

open Text (NonEmptyStr)
open Validation

/-- Stable reference to one trusted kernel capability version. -/
structure KernelCapabilityRef where
  capabilityId : NonEmptyStr
  version : NonEmptyStr
  deriving DecidableEq

/-- Stable reference to one fixed-kernel manifest version. -/
structure KernelRef where
  kernelId : NonEmptyStr
  version : NonEmptyStr
  deriving DecidableEq

/-! ## Retry taxonomy -/

/-- `PROHIBITED_RETRY_SAFE_ERROR_CODES`. -/
def prohibitedRetrySafeErrorCodeSet : List String :=
  ["candidate_manifest_contract_failed", "fanout_item_failed", "handler_exception",
    "harbor_workflow_failed", "incomplete_harbor_import", "incomplete_harbor_trial_plan",
    "invalid_handler_result", "invalid_harbor_trials", "no_harbor_trials", "node_execution_failed",
    "program_node_failed_without_code", "required_verifier_not_completed",
    "runtime_execution_attestation_invalid", "runtime_execution_attestation_mismatch",
    "runtime_execution_attestation_missing", "runtime_fault", "verified_trial_contract_failed"]

/-- `PROHIBITED_RETRY_SAFE_ERROR_PREFIXES`. -/
def prohibitedRetrySafeErrorPrefixes : List String := ["global_", "harness_"]

def ProhibitedRetrySafe (errorCode : NonEmptyStr) : Prop :=
  errorCode.val ∈ prohibitedRetrySafeErrorCodeSet ∨
    ∃ start ∈ prohibitedRetrySafeErrorPrefixes, start.toList <+: errorCode.val.toList

instance (errorCode : NonEmptyStr) : Decidable (ProhibitedRetrySafe errorCode) :=
  inferInstanceAs (Decidable (_ ∨ _))

/-- `prohibited_retry_safe_error_codes`: the codes whose replay is unsafe. -/
def prohibitedRetrySafeErrorCodes (errorCodes : List NonEmptyStr) : List NonEmptyStr :=
  (errorCodes.filter fun code => ProhibitedRetrySafe code).insertionSort fun a b => a.val ≤ b.val

/-! ## Budgets and policies -/

/-- The part of the resource envelope that constrains programs. -/
structure HarnessBudget where
  maxParallelism : ℕ := 32
  maxTotalAttempts : ℕ := 256
  parallelism_bounds : 1 ≤ maxParallelism ∧ maxParallelism ≤ 256
  attempts_bounds : 1 ≤ maxTotalAttempts ∧ maxTotalAttempts ≤ 10000

/-- Upper bound and allowlist for recursion. -/
structure HarnessRecursionPolicy where
  enabled : Bool
  maxDepth : ℕ
  maxCalls : ℕ
  allowedBindingIds : List NonEmptyStr
  depth_bound : maxDepth ≤ 32
  calls_bound : maxCalls ≤ 1024
  allowed_nodup : allowedBindingIds.Nodup
  enabled_bounds : enabled = true → maxDepth ≠ 0 ∧ maxCalls ≠ 0 ∧ allowedBindingIds ≠ []
  disabled_bounds : enabled = false → maxDepth = 0 ∧ maxCalls = 0 ∧ allowedBindingIds = []

/-! ## Operations -/

/-- Compilation authority required to invoke one exported operation. -/
inductive ProgramOperationScope
  | isPublic
  | proposalSessionInternal
  deriving DecidableEq

/-- One operation exported by the harness. -/
structure ProgramOperationSpec where
  operationId : NonEmptyStr
  capabilityRef : KernelCapabilityRef
  bindingIds : List NonEmptyStr
  allowedTaskRefs : List NonEmptyStr
  supportsRetry : Bool
  retrySafeErrorCodes : List NonEmptyStr
  supportsRecursion : Bool
  requiredCompilationScope : ProgramOperationScope
  bindings_ne : bindingIds ≠ []
  bindings_nodup : bindingIds.Nodup
  tasks_nodup : allowedTaskRefs.Nodup
  codes_nodup : retrySafeErrorCodes.Nodup
  no_wildcard : ∀ code ∈ retrySafeErrorCodes, code.val ≠ "*"
  none_prohibited : prohibitedRetrySafeErrorCodes retrySafeErrorCodes = []
  retry_codes : supportsRetry = true ↔ retrySafeErrorCodes ≠ []

def ProgramOperationSpec.ref (operation : ProgramOperationSpec) : ProgramOperationRef :=
  { operationId := operation.operationId }

/-- Named operation surface against which execution programs compile. -/
structure ProgramSurface where
  surfaceId : NonEmptyStr
  operations : List ProgramOperationSpec
  operations_ne : operations ≠ []
  operations_nodup : (operations.map ProgramOperationSpec.operationId).Nodup

namespace ProgramSurface

/-- The operation with an id. -/
def operation (surface : ProgramSurface) (operationId : NonEmptyStr) :
    Option ProgramOperationSpec :=
  surface.operations.find? fun operation => operation.operationId = operationId

def resolveOperation (surface : ProgramSurface) (reference : ProgramOperationRef) :
    Option ProgramOperationSpec := surface.operation reference.operationId

lemma operation_id {surface : ProgramSurface} {operationId : NonEmptyStr}
    {operation : ProgramOperationSpec} (h : surface.operation operationId = some operation) :
    operation.operationId = operationId := by
  simpa using List.find?_some h

end ProgramSurface

/-! ## Harnesses -/

/-- Stable reference to one compiled task-specific harness instance. -/
structure HarnessInstanceRef where
  instanceId : NonEmptyStr
  deriving DecidableEq

/-- The harness, with the ids of its bindings. -/
structure CompiledHarnessInstance where
  instanceId : NonEmptyStr
  kernelRef : KernelRef
  budget : HarnessBudget
  recursionPolicy : HarnessRecursionPolicy
  bindingIds : List NonEmptyStr
  programSurface : ProgramSurface
  bindings_ne : bindingIds ≠ []
  bindings_nodup : bindingIds.Nodup
  recursion_known : ∀ id ∈ recursionPolicy.allowedBindingIds, id ∈ bindingIds
  operations_known : ∀ operation ∈ programSurface.operations, ∀ id ∈ operation.bindingIds,
    id ∈ bindingIds

def CompiledHarnessInstance.ref (harness : CompiledHarnessInstance) : HarnessInstanceRef :=
  { instanceId := harness.instanceId }

/-! ## Programs of a harness -/

/-- A proposed program: a validated graph. -/
structure ExecutionProgram where
  programId : NonEmptyStr
  version : NonEmptyStr
  harnessRef : HarnessInstanceRef
  nodes : List ProgramNode
  limits : ProgramLimits
  valid : validateProgramGraph nodes limits = .ok ()

def ExecutionProgram.ref (program : ExecutionProgram) : ExecutionProgramRef :=
  { programId := program.programId, version := program.version }

/-- A compiled program with what it was compiled from and against. -/
structure CompiledProgram where
  harnessRef : HarnessInstanceRef
  sourceProgramRef : ExecutionProgramRef
  surfaceId : NonEmptyStr
  program : CompiledExecutionProgram

end AecBench.Contracts
