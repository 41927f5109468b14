import AecBench.Contracts.ExecutionProgram

/-!
# Outcomes and evidence of program runs

What a trusted handler returns, and the evidence that a run leaves: one entry for every attempt,
one for every node, and the terminal result with the budgets it used.

## Main definitions

* `OperationResult` — a validated result of a handler.
* `OperationAttemptEvidence`, `NodeExecutionEvidence` — the evidence of attempts and nodes.
* `ProgramExecutionResult`, `ProgramExecutionResult.validateTerminalShape` — the terminal result.

## Implementation notes

The texts of evidence records are checked not to be blank where they are built; here they are of
type `Text.NonEmptyStr`, so that building a record cannot fail.
-/

namespace AecBench.ProgramExecution

open AecBench.Contracts
open Text (NonEmptyStr)
open Validation

inductive OperationExecutionStatus
  | succeeded | failed
  deriving DecidableEq

inductive NodeExecutionStatus
  | succeeded | failed | skipped
  deriving DecidableEq

inductive ProgramExecutionStatus
  | succeeded | failed | stopped
  deriving DecidableEq

/-! ## Results of handlers -/

/-- The fields of an operation result before they are validated. -/
structure OperationResultFields where
  status : OperationExecutionStatus
  outputs : JsonObject := []
  errorCode : Option String := none
  errorMessage : Option String := none

def OperationResultFields.errors (r : OperationResultFields) : Errors :=
  record [("error_code", optional nonEmptyStr r.errorCode),
      ("error_message", optional nonEmptyStr r.errorMessage)] do
    require (¬ (r.status = .succeeded ∧ (r.errorCode ≠ none ∨ r.errorMessage ≠ none)))
      "successful operation results cannot contain errors"
    require (¬ (r.status = .failed ∧ r.errorCode = none))
      "failed operation results require an error code"

/-- Typed output returned by a trusted operation handler. -/
abbrev OperationResult := Model OperationResultFields.errors

namespace OperationResult

lemma errors_eq_nil {r : OperationResultFields} :
    r.errors = [] ↔ (∀ code, r.errorCode = some code → ¬ Text.Blank code) ∧
      (∀ message, r.errorMessage = some message → ¬ Text.Blank message) ∧
        (r.status = .succeeded → r.errorCode = none ∧ r.errorMessage = none) ∧
          (r.status = .failed → r.errorCode ≠ none) := by
  obtain ⟨status, outputs, code, message⟩ := r
  simp only [OperationResultFields.errors, record_eq_nil, bind_eq_ok, require_eq_ok,
    Unique.exists_iff]
  cases status <;> cases code <;> cases message <;> simp

variable (r : OperationResult)

lemma code_not_blank : ∀ code, r.val.errorCode = some code → ¬ Text.Blank code :=
  (errors_eq_nil.mp r.property).1

lemma message_not_blank : ∀ message, r.val.errorMessage = some message → ¬ Text.Blank message :=
  (errors_eq_nil.mp r.property).2.1

def errorCode : Option NonEmptyStr := Option.pmap NonEmptyStr.mk r.val.errorCode r.code_not_blank

def errorMessage : Option NonEmptyStr :=
  Option.pmap NonEmptyStr.mk r.val.errorMessage r.message_not_blank

/-- `OperationResult.failed`. -/
def failed (errorCode errorMessage : String) : Except Errors OperationResult :=
  validate OperationResultFields.errors
    { status := .failed, errorCode := some errorCode, errorMessage := some errorMessage }

end OperationResult

/-! ## Evidence -/

inductive SourceKind
  | literal | output | fanoutItem | fanoutItems | verifySubject | joinSource | branchCondition
  | stopResult
  deriving DecidableEq

/-- Content lineage for one literal, upstream port, or fan-out item. -/
structure InputBindingLineage where
  argumentName : NonEmptyStr
  sourceKind : SourceKind
  sourceNodeId : Option NonEmptyStr := none
  sourceOutputPort : Option NonEmptyStr := none
  fanoutIndex : Option ℕ := none
  valueSha256 : String

/-- Compiled operation identity and binding path used for one executable node. -/
structure OperationLineage where
  operationRef : ProgramOperationRef
  bindingIds : List NonEmptyStr

/-- Auditable evidence for one bounded handler invocation. -/
structure OperationAttemptEvidence where
  nodeId : NonEmptyStr
  operationRef : ProgramOperationRef
  attemptIndex : ℕ
  fanoutIndex : Option ℕ
  argumentsSha256 : String
  status : OperationExecutionStatus
  outputsSha256 : Option String
  errorCode : Option NonEmptyStr
  errorMessage : Option NonEmptyStr
  recursiveCalls : ℕ
  maximumRecursionDepth : ℕ

/-- Per-node activation, data binding, operation lineage, attempts, and outputs. -/
structure NodeExecutionEvidence where
  nodeId : NonEmptyStr
  kind : ProgramNodeKind
  status : NodeExecutionStatus
  dependencyNodeIds : List NonEmptyStr
  inputBindings : List InputBindingLineage := []
  operationLineage : Option OperationLineage := none
  attempts : List OperationAttemptEvidence := []
  outputs : JsonObject := []
  selectedSuccessorNodeId : Option NonEmptyStr := none
  errorCode : Option NonEmptyStr := none
  errorMessage : Option NonEmptyStr := none

/-! ## Results of programs -/

/-- Terminal result with complete node evidence and consumed runtime budgets. -/
structure ProgramExecutionResult where
  programRef : ExecutionProgramRef
  status : ProgramExecutionStatus
  stopNodeId : Option NonEmptyStr := none
  result : Json := .null
  message : Option NonEmptyStr := none
  errorCode : Option NonEmptyStr := none
  errorMessage : Option NonEmptyStr := none
  totalAttempts : ℕ
  maximumParallelismObserved : ℕ
  recursiveCalls : ℕ
  maximumRecursionDepth : ℕ
  nodeEvidence : List NodeExecutionEvidence

namespace ProgramExecutionResult

variable (r : ProgramExecutionResult)

def failedNodes : List NodeExecutionEvidence :=
  r.nodeEvidence.filter fun evidence => evidence.status = .failed

def reachedStopIds : List NonEmptyStr :=
  (r.nodeEvidence.filter fun evidence =>
    evidence.kind = .stop ∧ evidence.status = .succeeded).map NodeExecutionEvidence.nodeId

def validateStopReference : Except String Unit :=
  require (∀ id ∈ r.stopNodeId, id ∈ r.reachedStopIds)
    "program stop id must identify a reached stop node"

def validateSuccessfulTerminal : Except String Unit := do
  require (r.stopNodeId ≠ none)
    "successful or stopped program results require a reached stop node"
  require (r.errorCode = none ∧ r.errorMessage = none)
    "successful or stopped program results cannot contain error fields"
  require (r.failedNodes.isEmpty)
    "successful or stopped program results cannot contain failed node evidence"

def validateFailedTerminal : Except String Unit := do
  require (r.errorCode ≠ none) "failed program results require an error code"
  require (¬ (r.stopNodeId = none ∧ (r.result.isNull = false ∨ r.message ≠ none)))
    "failed program results without a failed stop cannot contain terminal success data"
  require (r.stopNodeId = none ∨ r.errorCode.map NonEmptyStr.val = some "stop_failed")
    "failed stop results require the typed stop failure code"
  require (r.stopNodeId = none ∨ r.failedNodes.isEmpty)
    "an earlier failed node must dominate a reached failed stop"

def validateTerminalShape : Except String Unit := do
  r.validateStopReference
  match r.status with
  | .failed => r.validateFailedTerminal
  | _ => r.validateSuccessfulTerminal

end ProgramExecutionResult

end AecBench.ProgramExecution
