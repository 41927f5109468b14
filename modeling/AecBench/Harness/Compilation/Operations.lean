import AecBench.Contracts.HarnessInstance

/-!
# The operations of a compilation

A program is compiled against the operations that a harness exports and the runtimes that a fixed
kernel installs. What an operation accepts as arguments is told by its definition, or, in a registry
without definitions, by its name.

## Main definitions

* `CompilationDiagnostic`, `CompileFailure` — how a compilation fails.
* `KernelRuntimeRegistry` — the installed runtimes and definitions.
* `validateOperationArguments` — the arguments of a node.
* `validateOperationRetryTaxonomy` — the retry codes of an operation and of its runtime.
-/

namespace AecBench.Compilation

open AecBench.Contracts
open Text (NonEmptyStr)
open Validation

/-! ## Failures -/

/-- Boundary responsible for a deterministic compile failure. -/
inductive CompilationOwner
  | kernel
  | harness
  | program
  | world
  | runtime
  deriving DecidableEq

/-- Stable failure attribution. -/
structure CompilationDiagnostic where
  owner : CompilationOwner
  code : String
  message : String
  subjectIds : List NonEmptyStr

/-- How a compilation fails: with a diagnostic, or by an assertion or a validator of its result. -/
inductive CompileFailure
  | rejected (diagnostic : CompilationDiagnostic)
  | assertion
  | invalid (message : String)

/-- `sorted(ids)`. -/
def sorted (ids : List NonEmptyStr) : List NonEmptyStr :=
  ids.insertionSort fun a b => a.val ≤ b.val

/-- `sorted(set(ids))`. -/
def sortedSet (ids : List NonEmptyStr) : List NonEmptyStr := sorted ids.dedup

/-- `_fail`. -/
def fail {α : Type} (owner : CompilationOwner) (code message : String)
    (subjectIds : List NonEmptyStr) : Except CompileFailure α :=
  .error (.rejected ⟨owner, code, message, sortedSet subjectIds⟩)

/-- A check that fails with a diagnostic. -/
def check (p : Prop) [Decidable p] (owner : CompilationOwner) (code message : String)
    (subjectIds : List NonEmptyStr) : Except CompileFailure Unit :=
  if p then .ok () else fail owner code message subjectIds

/-! ## The kernel -/

inductive ProgramCompilationProfile
  | standard
  | monolithicIncumbent
  deriving DecidableEq

/-- The runtime of an installed operation. -/
structure ProgramOperationRuntime where
  retrySafeErrorCodes : List NonEmptyStr
  codes_nodup : retrySafeErrorCodes.Nodup
  no_wildcard : ∀ code ∈ retrySafeErrorCodes, code.val ≠ "*"
  none_prohibited : prohibitedRetrySafeErrorCodes retrySafeErrorCodes = []

inductive KernelRuntime
  | programOperation (runtime : ProgramOperationRuntime)
  /-- A task source, an adapter, a backend, a provider, a verifier, an importer or a profiler. -/
  | other

structure KernelRuntimePrimitive where
  ref : KernelCapabilityRef
  runtime : KernelRuntime

inductive KernelOperationArgumentPolicy
  | noArgumentsAction
  | declaredArgumentsAction
  | declaredArgumentsActionOrFanout
  deriving DecidableEq

inductive KernelOperationArgumentSource
  | literalString
  | output
  | programValue
  deriving DecidableEq

/-- One argument of an operation. -/
structure KernelOperationArgumentSpec where
  name : NonEmptyStr
  source : KernelOperationArgumentSource
  outputPorts : List NonEmptyStr := []
  required : Bool := true
  restrictToAllowedTaskRefs : Bool := false

/-- The definition of an operation, as far as compilation reads it. -/
structure KernelOperationDefinition where
  operationId : NonEmptyStr
  capabilityRef : KernelCapabilityRef
  argumentPolicy : KernelOperationArgumentPolicy
  arguments : List KernelOperationArgumentSpec
  maximumArguments : Option ℕ
  fanoutItemArgument : Option NonEmptyStr
  argumentErrorMessage : NonEmptyStr
  allowMonolithicWithoutArguments : Bool

/-- The installed kernel. -/
structure KernelRuntimeRegistry where
  manifestRef : KernelRef
  primitives : List KernelRuntimePrimitive
  operationDefinitions : List KernelOperationDefinition
  primitives_nodup : (primitives.map fun primitive => primitive.ref.capabilityId).Nodup
  definitions_nodup : (operationDefinitions.map (·.operationId)).Nodup

namespace KernelRuntimeRegistry

variable (registry : KernelRuntimeRegistry)

def IsLegacyDefinitionFree : Prop := registry.operationDefinitions = []

instance : Decidable registry.IsLegacyDefinitionFree :=
  decidable_of_iff (registry.operationDefinitions.isEmpty = true) List.isEmpty_iff

/-- `resolve`: an exact capability id and version. -/
def resolve (reference : KernelCapabilityRef) : Except String KernelRuntimePrimitive :=
  match registry.primitives.find? fun p => p.ref.capabilityId = reference.capabilityId with
  | none => .error s!"unknown kernel capability: {reference.capabilityId.val}"
  | some primitive =>
    if primitive.ref = reference then .ok primitive
    else .error s!"capability version does not match fixed K: {reference.capabilityId.val}"

def operationDefinition (operationId : NonEmptyStr) : Option KernelOperationDefinition :=
  registry.operationDefinitions.find? fun definition => definition.operationId = operationId

end KernelRuntimeRegistry

/-! ## Arguments -/

/-- The arguments of a node. -/
def nodeArguments (node : ProgramNode) : List ProgramArgument :=
  match node.body with
  | .action n => n.arguments
  | .fanout n => n.arguments
  | .verify n => n.arguments
  | _ => []

def argumentNames (node : ProgramNode) : List NonEmptyStr :=
  (nodeArguments node).map ProgramArgument.name

/-- The argument with a name. -/
def argumentNamed (node : ProgramNode) (name : String) : Option ProgramArgument :=
  (nodeArguments node).find? fun argument => argument.name.val = name

/-- The names are exactly these. -/
def NamesAre (node : ProgramNode) (names : List String) : Prop :=
  (∀ name ∈ argumentNames node, name.val ∈ names) ∧
    ∀ name ∈ names, name ∈ (argumentNames node).map (·.val)

instance (node : ProgramNode) (names : List String) : Decidable (NamesAre node names) :=
  inferInstanceAs (Decidable (_ ∧ _))

/-- `_literal_string`: a visible literal text. -/
def literalString : Option ProgramArgument → Option String
  | some ⟨_, .literal (.str value)⟩ => if Text.Blank value then none else some value
  | _ => none

/-- The argument comes from one of the ports. -/
def FromPort (ports : List String) : Option ProgramArgument → Prop
  | some ⟨_, .output ref⟩ => ref.outputPort.val ∈ ports
  | _ => False

instance (ports : List String) : ∀ argument, Decidable (FromPort ports argument)
  | some ⟨_, .output ref⟩ => inferInstanceAs (Decidable (ref.outputPort.val ∈ ports))
  | some ⟨_, .literal _⟩ => isFalse id
  | none => isFalse id

def IsAction (node : ProgramNode) : Prop := node.body.kind = .action

instance (node : ProgramNode) : Decidable (IsAction node) := inferInstanceAs (Decidable (_ = _))

def IsFanout (node : ProgramNode) : Prop := node.body.kind = .fanout

instance (node : ProgramNode) : Decidable (IsFanout node) := inferInstanceAs (Decidable (_ = _))

/-- The item argument of a fan-out. -/
def itemArgument? (node : ProgramNode) : Option NonEmptyStr :=
  match node.body with
  | .fanout n => some n.itemArgument
  | _ => none

/-- The ids of a failure about arguments. -/
def argumentSubjects (node : ProgramNode) : List NonEmptyStr :=
  node.nodeId :: sortedSet (argumentNames node)

/-- A check of arguments. -/
def checkArguments (p : Prop) [Decidable p] (message : String) (node : ProgramNode) :
    Except CompileFailure Unit :=
  check p .program "operation_argument_unsupported" message (argumentSubjects node)

/-! ### Registries without definitions -/

section Legacy

variable (node : ProgramNode) (operation : ProgramOperationSpec)
  (profile : ProgramCompilationProfile)

/-- `_validate_legacy_enumeration`. -/
def validateLegacyEnumeration : Except CompileFailure Unit :=
  checkArguments (argumentNames node = [] ∧ ¬ IsFanout node)
    "enumerate_tasks accepts no arguments and cannot be a fanout target" node

/-- `_validate_legacy_argument_free_action`. -/
def validateLegacyArgumentFreeAction (operationId : String) : Except CompileFailure Unit :=
  checkArguments (argumentNames node = [] ∧ IsAction node)
    (operationId ++
      " is an argument-free action whose exact context is supplied by the compiler") node

/-- `_validate_legacy_single_output_action`. -/
def validateLegacySingleOutputAction (operationId : String) : Except CompileFailure Unit :=
  if operationId = "finalize_proposed_plan" ∧ profile = .monolithicIncumbent ∧ IsAction node ∧
      argumentNames node = [] ∧ node.dependsOn = [] then .ok ()
  else
    let argumentName := if operationId = "check_subtask_contract" then "subject" else "findings"
    checkArguments (IsAction node ∧ NamesAre node [argumentName] ∧
        FromPort ["result"] (argumentNamed node argumentName))
      s!"{operationId} requires exactly one output-derived {argumentName} argument" node

/-- A literal task that the operation allows. -/
def AllowedTask (argument : Option ProgramArgument) : Prop :=
  ∃ task ∈ literalString argument, task ∈ operation.allowedTaskRefs.map (·.val)

instance (argument : Option ProgramArgument) : Decidable (AllowedTask operation argument) :=
  inferInstanceAs (Decidable (∃ task ∈ literalString argument, _))

/-- `_validate_legacy_run_stage`. -/
def validateLegacyRunStage : Except CompileFailure Unit :=
  checkArguments (IsAction node ∧
      (NamesAre node ["task_ref", "stage_id"] ∨
        NamesAre node ["task_ref", "stage_id", "upstream_receipts"]) ∧
      AllowedTask operation (argumentNamed node "task_ref") ∧
      (literalString (argumentNamed node "stage_id")).isSome ∧
      ((argumentNamed node "upstream_receipts").isNone ∨
        FromPort ["stage_receipt", "result"] (argumentNamed node "upstream_receipts")))
    ("run_stage requires literal task_ref/stage_id arguments and accepts only " ++
      "an output-derived upstream_receipts argument") node

/-- `_validate_legacy_finalize_task`. -/
def validateLegacyFinalizeTask : Except CompileFailure Unit :=
  checkArguments (IsAction node ∧ NamesAre node ["task_ref", "stage_receipts"] ∧
      AllowedTask operation (argumentNamed node "task_ref") ∧
      FromPort ["stage_receipt", "result"] (argumentNamed node "stage_receipts"))
    "finalize_task requires a literal task_ref and output-derived stage_receipts argument" node

/-- `_validate_legacy_run_batch`. -/
def validateLegacyRunBatch : Except CompileFailure Unit :=
  checkArguments
    (if IsFanout node then
      (itemArgument? node).map (·.val) = some "task_ref" ∧ argumentNames node = []
    else (argumentNames node).length ≤ 1 ∧
      ∀ name ∈ argumentNames node, name.val = "task_ref" ∨ name.val = "task_refs")
    ("run_batch accepts one optional task_ref/task_refs selection; " ++
      "fanout must bind exactly task_ref") node

/-- `_validate_legacy_operation_arguments`. -/
def validateLegacyOperationArguments : Except CompileFailure Unit :=
  let operationId := ((node.body.operationId?).map (·.val)).getD ""
  if operationId = "enumerate_tasks" then validateLegacyEnumeration node
  else if operationId ∈ ["run_proposal_session", "run_semantic_subtask"] then
    validateLegacyArgumentFreeAction node operationId
  else if operationId ∈ ["check_subtask_contract", "finalize_proposed_plan"] then
    validateLegacySingleOutputAction node profile operationId
  else if operationId = "run_stage" then validateLegacyRunStage node operation
  else if operationId = "finalize_task" then validateLegacyFinalizeTask node operation
  else if operationId = "run_batch" then validateLegacyRunBatch node
  else .ok ()

end Legacy

/-! ### Registries with definitions -/

section Definition

variable (node : ProgramNode) (definition : KernelOperationDefinition)
  (operation : ProgramOperationSpec) (profile : ProgramCompilationProfile)

/-- `_definition_argument_valid`. -/
def definitionArgumentValid (spec : KernelOperationArgumentSpec) : Prop :=
  ∀ argument ∈ argumentNamed node spec.name.val,
    (spec.source = .literalString → ∃ literal ∈ literalString (some argument),
      spec.restrictToAllowedTaskRefs = false ∨ literal ∈ operation.allowedTaskRefs.map (·.val)) ∧
    (spec.source = .output → FromPort (spec.outputPorts.map (·.val)) (some argument))

instance (spec : KernelOperationArgumentSpec) :
    Decidable (definitionArgumentValid node operation spec) :=
  inferInstanceAs (Decidable (∀ argument ∈ argumentNamed node spec.name.val, _))

/-- `_definition_action_arguments_valid`. -/
def definitionActionArgumentsValid : Prop :=
  IsAction node ∧
  (∀ spec ∈ definition.arguments, spec.required = true → spec.name ∈ argumentNames node) ∧
  (∀ name ∈ argumentNames node, name ∈ definition.arguments.map (·.name)) ∧
  (∀ maximum ∈ definition.maximumArguments, (argumentNames node).length ≤ maximum) ∧
  ∀ spec ∈ definition.arguments, definitionArgumentValid node operation spec

instance : Decidable (definitionActionArgumentsValid node definition operation) :=
  inferInstanceAs (Decidable (_ ∧ _))

/-- `_validate_definition_arguments`. -/
def validateDefinitionArguments : Except CompileFailure Unit :=
  let message := definition.argumentErrorMessage.val
  match definition.argumentPolicy with
  | .noArgumentsAction => checkArguments (argumentNames node = [] ∧ IsAction node) message node
  | policy =>
    if definition.allowMonolithicWithoutArguments = true ∧ profile = .monolithicIncumbent ∧
        IsAction node ∧ argumentNames node = [] ∧ node.dependsOn = [] then .ok ()
    else if IsFanout node then
      checkArguments (policy = .declaredArgumentsActionOrFanout ∧ argumentNames node = [] ∧
        itemArgument? node = definition.fanoutItemArgument) message node
    else checkArguments (definitionActionArgumentsValid node definition operation) message node

end Definition

/-- `_operation_definition_for_compilation`, and the arguments that it asks for. -/
def validateOperationArguments (node : ProgramNode) (operation : ProgramOperationSpec)
    (profile : ProgramCompilationProfile) (registry : KernelRuntimeRegistry) :
    Except CompileFailure Unit :=
  match registry.operationDefinition operation.operationId with
  | none =>
    if registry.IsLegacyDefinitionFree then
      validateLegacyOperationArguments node operation profile
    else
      fail .kernel "operation_definition_missing"
        ("fixed-K operation lacks its phase-neutral definition: " ++ operation.operationId.val)
        [operation.operationId]
  | some definition =>
    if operation.capabilityRef = definition.capabilityRef then
      validateDefinitionArguments node definition operation profile
    else
      fail .kernel "operation_definition_mismatch"
        ("compiled harness operation differs from its installed kernel definition: " ++
          operation.operationId.val) [operation.operationId]

/-- `_validate_operation_retry_taxonomy`. -/
def validateOperationRetryTaxonomy (operation : ProgramOperationSpec)
    (runtime : ProgramOperationRuntime) : Except CompileFailure Unit := do
  check (prohibitedRetrySafeErrorCodes runtime.retrySafeErrorCodes = []) .kernel
    "program_operation_retry_taxonomy_unsafe"
    "fixed-K operation declares prohibited retry-safe error codes"
    (operation.operationId :: prohibitedRetrySafeErrorCodes runtime.retrySafeErrorCodes)
  check (operation.retrySafeErrorCodes = runtime.retrySafeErrorCodes ∧
      (operation.supportsRetry = true ↔ runtime.retrySafeErrorCodes ≠ [])) .harness
    "operation_retry_taxonomy_mismatch"
    ("operation retry taxonomy differs from the installed fixed-K primitive: " ++
      operation.operationId.val) [operation.operationId]

end AecBench.Compilation
