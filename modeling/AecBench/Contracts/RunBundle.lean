import AecBench.Contracts.HarnessInstance
import AecBench.Lib.Loops

/-!
# Run bundles

A run plan embeds a harness and a compiled program, and checks again that they fit: that the
operations resolve, that the program keeps to the budget of the harness, and that its recursion and
its retries are ones that the harness allows.

## Main definitions

* `RunBundle.RunPlan` — the harness and the program of a run.
* `RunBundle.validateRecursiveNodes` — the rules for recursion and retry.
* `RunBundle.validatePlan` — the checks of a plan that are about its program.
-/

namespace AecBench.Contracts.RunBundle

open Text (NonEmptyStr)
open Validation

/-- The part of a run plan that its program is checked against. -/
structure RunPlan where
  harness : CompiledHarnessInstance
  executionProgram : CompiledProgram

variable (plan : RunPlan)

/-- `_resolve_invoked_operations`. -/
def resolveInvokedOperations : Except String (List ProgramOperationSpec) :=
  plan.executionProgram.program.operationRefs.mapM fun reference =>
    match plan.harness.programSurface.resolveOperation reference with
    | none => .error (s!"execution program operation {Text.repr reference.operationId.val} " ++
        "does not resolve against the embedded harness surface")
    | some operation => .ok operation

/-- `_validate_contract_relationships`. -/
def validateContractRelationships : Except String Unit := do
  require (plan.executionProgram.harnessRef = plan.harness.ref)
    "execution program does not target the embedded harness"
  require (plan.executionProgram.surfaceId = plan.harness.programSurface.surfaceId)
    "execution program surface does not match the embedded harness surface"

/-- `_validate_program_budget`. -/
def validateProgramBudget : Except String Unit := do
  require (plan.executionProgram.program.limits.maxParallelism ≤ plan.harness.budget.maxParallelism)
    "execution program parallelism exceeds the harness budget"
  require
    (plan.executionProgram.program.limits.maxTotalAttempts ≤ plan.harness.budget.maxTotalAttempts)
    "execution program attempts exceed the harness budget"

/-- The operation that a node invokes. -/
def invoked (harness : CompiledHarnessInstance) (node : ProgramNode) :
    Option ProgramOperationSpec :=
  node.body.operationId?.bind harness.programSurface.operation

/-- The text of the operation that a node invokes, in messages. -/
def operationText (node : ProgramNode) : String :=
  Text.repr ((node.body.operationId?.map (·.val)).getD "")

/-- What is checked of a recursive node. -/
def validateRecursiveNode (harness : CompiledHarnessInstance) (node : ProgramNode)
    (recursion : RecursionPolicy) : Except String Unit := do
  require (recursion.maxDepth ≤ harness.recursionPolicy.maxDepth ∧
      recursion.maxCalls ≤ harness.recursionPolicy.maxCalls)
    "execution program recursion exceeds the harness policy"
  require (∃ operation ∈ invoked harness node, operation.supportsRecursion = true)
    s!"execution program operation {operationText node} cannot recurse"
  require (∃ operation ∈ invoked harness node,
      ∃ id ∈ operation.bindingIds, id ∈ harness.recursionPolicy.allowedBindingIds)
    (s!"execution program operation {operationText node} is outside the " ++
      "harness recursion binding allowlist")

/-- The codes of a retry policy that its operation does not call safe. -/
def unsafeRetryCodes (operation : ProgramOperationSpec) (retry : RetryPolicy) :
    List NonEmptyStr := retry.retryOn.filter (· ∉ operation.retrySafeErrorCodes)

/-- What is checked of a node that retries. -/
def validateRetryNode (harness : CompiledHarnessInstance) (node : ProgramNode)
    (retry : RetryPolicy) : Except String Unit :=
  match invoked harness node with
  | none => .error s!"execution program operation {operationText node} cannot retry"
  | some operation => do
    require (operation.supportsRetry = true)
      s!"execution program operation {operationText node} cannot retry"
    require (unsafeRetryCodes operation retry = [])
      (s!"execution program node {Text.repr node.nodeId.val} retries unsafe error codes: " ++
        ", ".intercalate ((unsafeRetryCodes operation retry).map (·.val)))

/-- `_validate_recursive_nodes`. -/
def validateRecursiveNodes : Except String Unit := do
  let nodes := plan.executionProgram.program.nodes
  require ((∀ node ∈ nodes, node.body.recursion?.isNone) ∨
      plan.harness.recursionPolicy.enabled = true)
    "recursive execution program nodes require enabled harness recursion"
  nodes.forM fun node =>
    node.body.recursion?.elim (.ok ()) (validateRecursiveNode plan.harness node)
  nodes.forM fun node => node.body.retry?.elim (.ok ()) (validateRetryNode plan.harness node)

/-- `validate_plan`, as far as it is about the program. -/
def validatePlan : Except String Unit := do
  let _ ← resolveInvokedOperations plan
  validateContractRelationships plan
  validateProgramBudget plan
  validateRecursiveNodes plan

end AecBench.Contracts.RunBundle
