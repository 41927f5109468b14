import AecBench.Harness.ProgramExecution.Budget
import AecBench.Lib.ThreadPool

/-!
# The operations of a program run

The handlers of a run, and the threads that run the items of a fan-out, share its budget; what
handlers do and which thread goes on is up to the environment. An operation is invoked with bounded
retry, and every attempt leaves its evidence.

## Main definitions

* `OperationRegistry` — the trusted operations.
* `Walk` — what the executor knows: the evidence so far, the outputs and statuses of the nodes, and
  the choices of the branches.
* `Op`, `semantics` — the operations on the shared state and the answers of the environment.
* `callHandler`, `invoke` — one attempt, and an invocation with its retries.

## Implementation notes

`Op.execute` changes nothing. It marks the moment at which a node starts its work, which for a join
is after its test for readiness.
-/

namespace AecBench.ProgramExecution

open AecBench.Contracts
open Text (NonEmptyStr)
open Validation

/-! ## The registry -/

/-- Trusted implementation bound to one exact operation identity and binding lineage. -/
structure OperationRegistration where
  reference : ProgramOperationRef
  bindingIds : List NonEmptyStr
  maxParallelism : ℕ := 1
  bindings_nonempty : bindingIds ≠ []
  bindings_nodup : bindingIds.Nodup
  parallelism_bounds : 1 ≤ maxParallelism ∧ maxParallelism ≤ 256

/-- Closed registry of trusted operations. -/
structure OperationRegistry where
  registrations : List OperationRegistration
  ids_nodup : (registrations.map fun r => r.reference.operationId).Nodup

namespace OperationRegistry

variable (registry : OperationRegistry)

/-- The trusted registration for an operation id, if one was injected. -/
def registration (operationId : NonEmptyStr) : Option OperationRegistration :=
  registry.registrations.find? fun r => r.reference.operationId = operationId

/-- Resolve only when the injected registration matches the compiled content identity. -/
def resolve (reference : ProgramOperationRef) : Option OperationRegistration :=
  (registry.registration reference.operationId).filter fun r => r.reference = reference

end OperationRegistry

/-! ## The state of the executor -/

/-- The outcome of one invocation of an operation, with all its attempts. -/
structure InvocationResult where
  succeeded : Bool
  outputs : JsonObject := []
  attempts : List OperationAttemptEvidence
  errorCode : Option NonEmptyStr := none
  errorMessage : Option NonEmptyStr := none
  fatal : Bool := false

structure ExecutedNode where
  evidence : NodeExecutionEvidence
  fatal : Bool := false

/-- What the executor knows while it walks the nodes. -/
structure Walk where
  evidence : List NodeExecutionEvidence := []
  outputs : NonEmptyStr → Option JsonObject := fun _ => none
  statuses : NonEmptyStr → Option NodeExecutionStatus := fun _ => none
  branchChoices : NonEmptyStr → Option NonEmptyStr := fun _ => none
  terminal : Option (NonEmptyStr × StopNode × Json) := none
  fatalFault : Option RuntimeFault := none
  firstFailure : Option RuntimeFault := none
  terminated : Bool := false

/-! ## Operations -/

/-- The operations of a run. -/
inductive Op : Type → Type
  | execute (node : ProgramNode) (walk : Walk) : Op Unit
  | openQueue (nodeId : NonEmptyStr) (size : ℕ) : Op Unit
  | take : Op (Option ℕ)
  | choose : Op Bool
  | claimAttempt (nodeId : NonEmptyStr) (fanoutIndex : Option ℕ) : Op Unit
  | enterSlot (context : OperationExecutionContext) : Op Unit
  | handler (arguments : JsonObject) (context : OperationExecutionContext) : Op HandlerRun
  | claimRecursion (context : OperationExecutionContext) (depth : Depth) : Op Unit
  | leaveSlot (context : OperationExecutionContext) (outcome : HandlerOutcome) : Op Unit
  | sleep (seconds : ℚ) : Op Unit
  | readBudget : Op RuntimeBudget

/-- What the environment decides at a moment: the thread that goes on, and the behaviour of every
handler that is called then. -/
structure Input where
  choice : Bool
  handler : JsonObject → OperationExecutionContext → HandlerRun

/-- An operation under the lock: it raises a fault and changes nothing, or changes the state. -/
def locked (x : Except RuntimeFault World) (w : World) : Except Raised Unit × World :=
  match x with
  | .ok w' => (.ok (), w')
  | .error fault => (.error (.fault fault), w)

/-- The answers of the operations, and what they change. -/
def semantics (limits : ProgramLimits) : Program.Semantics Op Raised Input World where
  act op input w :=
    match op with
    | .execute _ _ => (.ok (), w)
    | .openQueue _ size => (.ok (), { w with queue := { next := 0, size := size } })
    | .take => (.ok w.takeItem.1, w.takeItem.2)
    | .choose => (.ok input.choice, w)
    | .claimAttempt _ _ => locked (w.claimAttempt limits) w
    | .enterSlot _ => locked (w.enterSlot limits) w
    | .handler arguments context => (.ok (input.handler arguments context), w)
    | .claimRecursion context depth =>
      locked (w.claimRecursion limits context.nodeId context.recursion depth) w
    | .leaveSlot _ _ => (.ok (), w.leaveSlot)
    | .sleep _ => (.ok (), w)
    | .readBudget => (.ok w.budget, w)

/-- The programs of an execution. -/
abbrev Method (α : Type) := Program Unit Op Raised α

open Program (leaf)

/-- Call an operation, and raise what it raises. -/
def call {α : Type} (op : Op α) : Method α := Program.perform () op

/-! ## Invocations -/

section Invocations

variable (digest : Json → String) (programRef : ExecutionProgramRef)

/-- How the call of a handler went: its outcome, the recursive calls it made and their greatest
depth. -/
structure HandlerReport where
  outcome : HandlerOutcome
  callsUsed : ℕ
  maximumDepthUsed : ℕ

/-- The depth of a call that was admitted, as an integer. -/
def Depth.toNat (depth : Depth) : ℕ := depth.positive.getD 0

/-- A handler claims its recursive calls and ends. -/
def runHandler (context : OperationExecutionContext) :
    HandlerRun → ℕ → ℕ → Method HandlerReport
  | .finish outcome, calls, depth => .done ⟨outcome, calls, depth⟩
  | .claim d next, calls, depth =>
    .call () (.claimRecursion context d) fun
      | .ok _ => runHandler context (next none) (calls + 1) (max depth d.toNat)
      | .error (.fault fault) => runHandler context (next (some fault)) calls depth
      | .error e => .fail e

/-- The operation result that the outcome of a handler becomes, and whether it is fatal. The
exceptions are converted outside of any `try`, so an error of the conversion is raised. -/
def handlerResult : HandlerOutcome → Except Raised (OperationResult × Bool)
  | .returned (.fields result) =>
    match validate OperationResultFields.errors result with
    | .ok r => .ok (r, false)
    | .error _ => failedResult "invalid_handler_result"
      "trusted operation handler did not return a valid OperationResult" true
  | .returned .other => failedResult "invalid_handler_result"
      "trusted operation handler did not return a valid OperationResult" true
  | .fault fault => failedResult fault.code.val fault.message.val true
  | .failure code message => failedResult code.val message false
  | .exception text typeName =>
    failedResult "handler_exception" (if Text.Blank text then typeName else Text.strip text) false
where
  /-- `OperationResult.failed`, with what follows it. -/
  failedResult (code message : String) (fatal : Bool) : Except Raised (OperationResult × Bool) :=
    match OperationResult.failed code message with
    | .ok r => .ok (r, fatal)
    | .error errors => .error (.validationError errors)

/-- One attempt: its result, whether it is fatal, and the recursive calls it used. -/
structure Attempted where
  result : OperationResult
  fatal : Bool
  callsUsed : ℕ
  maximumDepthUsed : ℕ

/-- Convert the outcome of a handler. -/
def convert (report : HandlerReport) : Except Raised Attempted :=
  (handlerResult report.outcome).map fun r =>
    { result := r.1, fatal := r.2, callsUsed := report.callsUsed
      maximumDepthUsed := report.maximumDepthUsed }

/-- Call a handler in an operation slot and convert its outcome. -/
def callHandler (arguments : JsonObject) (context : OperationExecutionContext) : Method Attempted :=
  .call () (.enterSlot context) fun
    | .error (.fault fault) => leaf (convert ⟨.fault fault, 0, 0⟩)
    | .error e => .fail e
    | .ok _ =>
      call (.handler (Json.copyObject arguments) context) >>= fun run =>
        runHandler context run 0 0 >>= fun report =>
          call (.leaveSlot context report.outcome) >>= fun _ => leaf (convert report)

/-- `_should_retry`. -/
def shouldRetry (errorCode : Option NonEmptyStr) (retry : Option RetryPolicy)
    (attemptIndex : ℕ) : Option RetryPolicy :=
  retry.filter fun policy =>
    attemptIndex < policy.maxAttempts && errorCode.any (policy.retryOn.contains ·)

/-- `1 if retry is None else retry.max_attempts`. -/
def maxAttempts (retry : Option RetryPolicy) : ℕ := retry.elim 1 RetryPolicy.maxAttempts

/-- What an invocation is about: the node, the registration, and the arguments. -/
structure Invocation where
  nodeId : NonEmptyStr
  registration : OperationRegistration
  arguments : JsonObject
  retry : Option RetryPolicy
  recursion : Option RecursionPolicy
  fanoutIndex : Option ℕ

variable (inv : Invocation)

def invocationContext (attemptIndex : ℕ) : OperationExecutionContext where
  programRef := programRef
  nodeId := inv.nodeId
  operationRef := inv.registration.reference
  bindingIds := inv.registration.bindingIds
  attemptIndex := attemptIndex
  fanoutIndex := inv.fanoutIndex
  recursion := recursionLimits inv.recursion

def attemptEvidence (attemptIndex : ℕ) (attempted : Attempted) : OperationAttemptEvidence where
  nodeId := inv.nodeId
  operationRef := inv.registration.reference
  attemptIndex := attemptIndex
  fanoutIndex := inv.fanoutIndex
  argumentsSha256 := digest (.object inv.arguments)
  status := attempted.result.val.status
  outputsSha256 :=
    if attempted.result.val.status = .succeeded then
      some (digest (.object attempted.result.val.outputs))
    else none
  errorCode := attempted.result.errorCode
  errorMessage := attempted.result.errorMessage
  recursiveCalls := attempted.callsUsed
  maximumRecursionDepth := attempted.maximumDepthUsed

/-- The result of an invocation that ends with a failed attempt. -/
def failedInvocation (attempts : List OperationAttemptEvidence) (result : OperationResult)
    (fatal : Bool) : InvocationResult where
  succeeded := false
  attempts := attempts
  errorCode := result.errorCode
  errorMessage := result.errorMessage
  fatal := fatal

/-- The result of an invocation that ends with a successful attempt. -/
def succeededInvocation (attempts : List OperationAttemptEvidence) (result : OperationResult) :
    InvocationResult where
  succeeded := true
  outputs := Json.copyObject result.val.outputs
  attempts := attempts

/-- The result of an invocation whose next attempt is refused. -/
def refusedInvocation (attempts : List OperationAttemptEvidence) (fault : RuntimeFault) :
    InvocationResult where
  succeeded := false
  attempts := attempts
  errorCode := some fault.code
  errorMessage := some fault.message
  fatal := true

/-- What follows an attempt: the result of the invocation, or the policy of another attempt. -/
def afterAttempt (attempts : List OperationAttemptEvidence) (attemptIndex : ℕ)
    (attempted : Attempted) : InvocationResult ⊕ RetryPolicy :=
  if attempted.result.val.status = .succeeded then
    .inl (succeededInvocation attempts attempted.result)
  else if attempted.fatal then .inl (failedInvocation attempts attempted.result true)
  else
    match shouldRetry attempted.result.errorCode inv.retry attemptIndex with
    | none => .inl (failedInvocation attempts attempted.result false)
    | some policy => .inr policy

/-- Sleep before another attempt; the sleeper raises nothing. -/
def pause (policy : RetryPolicy) : Method Unit :=
  if policy.backoffSeconds = 0 then .done ()
  else .call () (.sleep policy.backoffSeconds) fun _ => .done ()

/-- The attempts of an invocation from `attemptIndex` on; at most `rounds` remain. -/
def attemptsFrom : ℕ → ℕ → List OperationAttemptEvidence → Method InvocationResult
  | 0, _, _ => .fail .assertionError
  | rounds + 1, attemptIndex, attempts =>
    .call () (.claimAttempt inv.nodeId inv.fanoutIndex) fun
      | .error (.fault fault) => .done (refusedInvocation attempts fault)
      | .error e => .fail e
      | .ok _ =>
        callHandler inv.arguments (invocationContext programRef inv attemptIndex) >>= fun attempted =>
          let attempts := attempts ++ [attemptEvidence digest inv attemptIndex attempted]
          match afterAttempt inv attempts attemptIndex attempted with
          | .inl result => .done result
          | .inr policy => pause policy >>= fun _ => attemptsFrom rounds (attemptIndex + 1) attempts

/-- `_invoke`. -/
def invoke : Method InvocationResult :=
  attemptsFrom digest programRef inv (maxAttempts inv.retry) 1 []

end Invocations

end AecBench.ProgramExecution
