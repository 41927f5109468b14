import AecBench.Lib.Loops
import AecBench.Lib.Rounds
import AecBench.Harness.Compilation.Operations

/-!
# The compilation of a program

A program is compiled by checks against the harness and the kernel, in the order of the source, and
by ordering its nodes in rounds. The result is validated once more as a record of its own.

## Main definitions

* `compileExecutionProgram` — the compiler.
* `topologicalOrder` — the order of the nodes.
-/

namespace AecBench.Compilation

open AecBench.Contracts
open Text (NonEmptyStr)
open Validation

/-! ## Profiles -/

/-- The result that a stop names. -/
def stopResult? (node : ProgramNode) : Option ProgramOutputRef :=
  match node.body with
  | .stop n => n.result
  | _ => none

/-- The action and the stop of a monolithic incumbent. -/
def MonolithicPair (action stop : ProgramNode) : Prop :=
  IsAction action ∧ action.body.operationId?.map (·.val) = some "finalize_proposed_plan" ∧
    action.dependsOn = [] ∧ argumentNames action = [] ∧ stop.dependsOn = [action.nodeId] ∧
    ∃ result ∈ stopResult? stop, result.nodeId = action.nodeId ∧ result.outputPort.val = "result"

instance (action stop : ProgramNode) : Decidable (MonolithicPair action stop) :=
  inferInstanceAs (Decidable (_ ∧ _))

/-- One action and one stop that fit. -/
def MonolithicPairs : List ProgramNode → List ProgramNode → Prop
  | [action], [stop] => MonolithicPair action stop
  | _, _ => False

instance : ∀ actions stops, Decidable (MonolithicPairs actions stops)
  | [action], [stop] => inferInstanceAs (Decidable (MonolithicPair action stop))
  | [], _ => isFalse id
  | _ :: _ :: _, _ => isFalse id
  | [_], [] => isFalse id
  | [_], _ :: _ :: _ => isFalse id

section Compile

variable (program : ExecutionProgram) (harness : CompiledHarnessInstance)
  (registry : KernelRuntimeRegistry) (scope : ProgramOperationScope)
  (profile : ProgramCompilationProfile)

/-- `_validate_monolithic_incumbent_profile`. -/
def validateMonolithicIncumbentProfile : Except CompileFailure Unit := do
  check (scope = .proposalSessionInternal) .program "monolithic_incumbent_scope_required"
    "monolithic incumbent compilation is confined to governed task-resident sessions"
    [program.programId]
  check (program.nodes.length = 2 ∧
      MonolithicPairs (program.nodes.filter fun node => node.body.operationId?.isSome)
        (program.nodes.filter fun node => node.body.kind = .stop))
    .program "monolithic_incumbent_shape_invalid"
    ("monolithic incumbent profile requires one argument-free final task action " ++
      "followed by one stop") [program.programId]

/-- The checks of the profile. -/
def validateProfile : Except CompileFailure Unit :=
  match profile with
  | .standard => .ok ()
  | .monolithicIncumbent => validateMonolithicIncumbentProfile program scope

/-! ## References and limits -/

/-- `_validate_program_references`. -/
def validateProgramReferences : Except CompileFailure Unit := do
  check (harness.kernelRef = registry.manifestRef) .kernel "kernel_reference_mismatch"
    "compiled harness does not target the installed fixed kernel" [harness.instanceId]
  check (program.harnessRef = harness.ref) .program "harness_reference_mismatch"
    "execution program does not target the supplied compiled harness"
    [program.programId, harness.instanceId]

/-- `_validate_program_limits`. -/
def validateHarnessLimits : Except CompileFailure Unit := do
  check (program.limits.maxParallelism ≤ harness.budget.maxParallelism) .program
    "parallelism_exceeds_harness_budget"
    "execution program parallelism exceeds the compiled harness budget" [program.programId]
  check (program.limits.maxTotalAttempts ≤ harness.budget.maxTotalAttempts) .program
    "attempts_exceed_harness_budget"
    "execution program attempts exceed the compiled harness budget" [program.programId]

/-- The ids of the verifier nodes. -/
def verifierIds : List NonEmptyStr :=
  (program.nodes.filter fun node => node.body.kind = .verify).map ProgramNode.nodeId

/-- `_reject_unavailable_verifier_nodes`. -/
def rejectUnavailableVerifierNodes : Except CompileFailure Unit :=
  check (verifierIds program = []) .kernel "verifier_subject_operation_unavailable"
    "the installed fixed kernel exposes no operation that verifies an upstream px subject"
    (verifierIds program)

/-! ## Operations -/

/-- `_validate_operation_scope`. -/
def validateOperationScope (operation : ProgramOperationSpec) (operationId : NonEmptyStr) :
    Except CompileFailure Unit :=
  check (operation.requiredCompilationScope = .isPublic ∨
      operation.requiredCompilationScope = scope) .program "proposal_session_scope_required"
    ("program operation is internal to governed proposal sessions: " ++ operationId.val)
    [operationId, program.programId]

/-- `_resolve_operation_runtime`. -/
def resolveOperationRuntime (operation : ProgramOperationSpec) (operationId : NonEmptyStr) :
    Except CompileFailure ProgramOperationRuntime :=
  match registry.resolve operation.capabilityRef with
  | .error message => fail .kernel "operation_capability_not_installed" message [operationId]
  | .ok primitive =>
    match primitive.runtime with
    | .programOperation runtime => .ok runtime
    | .other => fail .kernel "operation_runtime_invalid"
        ("operation has no trusted program runtime: " ++ operationId.val) [operationId]

/-- The round of `_resolve_operation_refs`. -/
def resolveOperationRef (operationId : NonEmptyStr) : Except CompileFailure ProgramOperationRef :=
  match harness.programSurface.operation operationId with
  | none => fail .program "operation_outside_harness_surface"
      ("program operation is not exported by Hx: " ++ operationId.val)
      [operationId, program.programId]
  | some operation => do
    validateOperationScope program scope operation operationId
    let runtime ← resolveOperationRuntime registry operation operationId
    validateOperationRetryTaxonomy operation runtime
    return operation.ref

/-- The ids of the invoked operations. -/
def operationIds : List NonEmptyStr :=
  sortedSet (program.nodes.filterMap fun node => node.body.operationId?)

/-- `_resolve_operation_refs`. -/
def resolveOperationRefs : Except CompileFailure (List ProgramOperationRef) :=
  (operationIds program).mapM (resolveOperationRef program harness registry scope)

/-! ## Nodes -/

/-- `_validate_node_retry`. -/
def validateNodeRetry (node : ProgramNode) (operationId : NonEmptyStr)
    (operation : ProgramOperationSpec) : Except CompileFailure Unit :=
  match node.body.retry? with
  | none => .ok ()
  | some retry => do
    let unsafeCodes := retry.retryOn.filter (· ∉ operation.retrySafeErrorCodes)
    check (operation.supportsRetry = true) .program "retry_not_supported"
      ("operation does not support retry: " ++ operationId.val) [node.nodeId]
    check (unsafeCodes = []) .program "retry_error_code_not_safe"
      ("program retry policy includes error codes outside the operation safe set: " ++
        ", ".intercalate (unsafeCodes.map (·.val))) [node.nodeId, operationId]

/-- `_validate_node_recursion`. -/
def validateNodeRecursion (node : ProgramNode) (operationId : NonEmptyStr)
    (operation : ProgramOperationSpec) : Except CompileFailure Unit :=
  match node.body.recursion? with
  | none => .ok ()
  | some _ =>
    check (harness.recursionPolicy.enabled = true ∧ operation.supportsRecursion = true) .program
      "recursion_not_supported" ("operation does not support recursion: " ++ operationId.val)
      [node.nodeId]

/-- The round of `_validate_operation_nodes`. -/
def validateOperationNode (node : ProgramNode) : Except CompileFailure Unit :=
  match node.body.operationId? with
  | none => .ok ()
  | some operationId =>
    match harness.programSurface.operation operationId with
    | none => .error .assertion
    | some operation => do
      validateNodeRetry node operationId operation
      validateNodeRecursion harness node operationId operation
      validateOperationArguments node operation profile registry

/-- `_validate_operation_nodes`. -/
def validateOperationNodes : Except CompileFailure Unit :=
  program.nodes.forM (validateOperationNode harness registry profile)

/-! ## The compiled program -/

/-- What the nodes depend on. -/
def dependencies : List (NonEmptyStr × List NonEmptyStr) :=
  program.nodes.map fun node => (node.nodeId, node.dependsOn)

/-- `_topological_order`: an assertion fails when no node is ready. -/
def topologicalOrder : Except CompileFailure (List NonEmptyStr) :=
  match Rounds.order sorted program.nodes.length (dependencies program) with
  | none => .error .assertion
  | some order => .ok order

/-- The record of the compiled program is validated. -/
def constructCompiled (order : List NonEmptyStr) (operationRefs : List ProgramOperationRef) :
    Except CompileFailure CompiledProgram :=
  match h : validateCompiledProgram program.nodes program.limits order operationRefs with
  | .error message => .error (.invalid message)
  | .ok () => .ok
    { harnessRef := harness.ref
      sourceProgramRef := program.ref
      surfaceId := harness.programSurface.surfaceId
      program :=
        { programId := program.programId
          version := program.version
          nodes := program.nodes
          limits := program.limits
          topologicalOrder := order
          operationRefs
          valid := h } }

/-- `compile_execution_program`. -/
def compileExecutionProgram : Except CompileFailure CompiledProgram := do
  validateProfile program scope profile
  validateProgramReferences program harness registry
  validateHarnessLimits program harness
  rejectUnavailableVerifierNodes program
  let operationRefs ← resolveOperationRefs program harness registry scope
  validateOperationNodes program harness registry profile
  let order ← topologicalOrder program
  constructCompiled program harness order operationRefs

end Compile

end AecBench.Compilation
