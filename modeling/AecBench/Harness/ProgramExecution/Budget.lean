import AecBench.Harness.ProgramExecution.Contracts

/-!
# Budgets of a program run

The attempts, the operation slots and the recursive calls of a program run are counted under one
lock. A handler sees its context and a capability that claims recursive calls.

## Main definitions

* `RuntimeFault`, `Raised` — the faults of the runtime, and everything that can be raised.
* `OperationExecutionContext`, `HandlerRun` — what a handler is given, and how it behaves.
* `RuntimeBudget`, `World` — the counters, and the state shared by the workers of a run.
* `World.claimAttempt`, `World.enterSlot`, `World.leaveSlot`, `World.claimRecursion` — the
  operations under the lock; `World.takeItem` — the queue of a fan-out.
-/

namespace AecBench.ProgramExecution

open AecBench.Contracts
open Text (NonEmptyStr)
open Validation

/-! ## Faults -/

structure RuntimeFault where
  code : NonEmptyStr
  message : NonEmptyStr

/-- What code of the executor can raise. -/
inductive Raised
  | fault (fault : RuntimeFault)
  | validationError (errors : Errors)
  | assertionError
  | keyError (key : String)

/-! ## Handlers -/

/-- The recursion budget of a node. -/
structure RecursionLimits where
  maxDepth : ℕ := 0
  maxCalls : ℕ := 0

def recursionLimits (policy : Option RecursionPolicy) : RecursionLimits :=
  policy.elim {} fun p => { maxDepth := p.maxDepth, maxCalls := p.maxCalls }

/-- Identity and bounded recursion surface supplied to one trusted handler call. -/
structure OperationExecutionContext where
  programRef : ExecutionProgramRef
  nodeId : NonEmptyStr
  operationRef : ProgramOperationRef
  bindingIds : List NonEmptyStr
  attemptIndex : ℕ
  fanoutIndex : Option ℕ
  recursion : RecursionLimits

/-- The depth a handler gives for a recursive call: an `int`, of which `bool` is a subclass. -/
inductive Depth
  | bool (value : Bool)
  | int (value : ℤ)

/-- What a handler returns: the fields that validate as an operation result, or anything else. -/
inductive HandlerReturn
  | fields (result : OperationResultFields)
  | other

/-- How the call of a handler ends. -/
inductive HandlerOutcome
  | returned (value : HandlerReturn)
  /-- A runtime fault that the handler does not catch. -/
  | fault (fault : RuntimeFault)
  /-- An `OperationHandlerFailure`, whose code is not blank. -/
  | failure (code : NonEmptyStr) (message : String)
  /-- Any other exception, with its text and the name of its type. -/
  | exception (text typeName : String)

/-- The behaviour of a handler in one call: it claims recursive calls, each of which succeeds or
raises a fault, and ends. -/
inductive HandlerRun
  | finish (outcome : HandlerOutcome)
  | claim (depth : Depth) (next : Option RuntimeFault → HandlerRun)

/-! ## The shared state -/

structure RuntimeBudget where
  totalAttempts : ℕ := 0
  currentParallelism : ℤ := 0
  maximumParallelismObserved : ℕ := 0
  recursiveCalls : ℕ := 0
  maximumRecursionDepthObserved : ℕ := 0

/-- The items of the current fan-out: the next one, and how many there are. -/
structure ItemQueue where
  next : ℕ := 0
  size : ℕ := 0

/-- The state that the workers of a run share: the budget, the recursive calls of every node, and
the queue of the current fan-out. -/
structure World where
  budget : RuntimeBudget := {}
  nodeCalls : NonEmptyStr → ℕ := fun _ => 0
  queue : ItemQueue := {}

def attemptBudgetExhausted (limits : ProgramLimits) : RuntimeFault where
  code := ⟨"global_attempt_budget_exhausted", by decide⟩
  message := NonEmptyStr.append ⟨"program attempt limit ", by decide⟩
    s!"{limits.maxTotalAttempts} exhausted"

def parallelismBudgetExhausted (limits : ProgramLimits) : RuntimeFault where
  code := ⟨"global_parallelism_budget_exhausted", by decide⟩
  message := NonEmptyStr.append ⟨"program parallelism limit ", by decide⟩
    s!"{limits.maxParallelism} exhausted"

def invalidRecursionDepth : RuntimeFault where
  code := ⟨"invalid_recursion_depth", by decide⟩
  message := ⟨"recursive-call depth must be a positive integer", by decide⟩

def recursionNotDeclared : RuntimeFault where
  code := ⟨"recursion_not_declared", by decide⟩
  message := ⟨"program node did not declare recursive execution", by decide⟩

def nodeDepthExhausted (limits : RecursionLimits) (depth : ℕ) : RuntimeFault where
  code := ⟨"node_recursion_depth_exhausted", by decide⟩
  message := NonEmptyStr.append ⟨"recursive depth ", by decide⟩
    s!"{depth} exceeds node limit {limits.maxDepth}"

def globalDepthExhausted (limits : ProgramLimits) (depth : ℕ) : RuntimeFault where
  code := ⟨"global_recursion_depth_exhausted", by decide⟩
  message := NonEmptyStr.append ⟨"recursive depth ", by decide⟩
    s!"{depth} exceeds program limit {limits.maxRecursionDepth}"

def nodeCallsExhausted (limits : RecursionLimits) : RuntimeFault where
  code := ⟨"node_recursive_call_budget_exhausted", by decide⟩
  message := NonEmptyStr.append ⟨"node recursive-call limit ", by decide⟩
    s!"{limits.maxCalls} exhausted"

def globalCallsExhausted (limits : ProgramLimits) : RuntimeFault where
  code := ⟨"global_recursive_call_budget_exhausted", by decide⟩
  message := NonEmptyStr.append ⟨"program recursive-call limit ", by decide⟩
    s!"{limits.maxRecursiveCalls} exhausted"

/-- The positive integer a depth is, when it is one. -/
def Depth.positive : Depth → Option ℕ
  | .bool _ => none
  | .int n => if n < 1 then none else some n.toNat

/-- The checks of a recursive call that do not depend on the calls made before: the depth, or the
fault. -/
def admittedDepth (limits : ProgramLimits) (node : RecursionLimits) (depth : Depth) :
    Except RuntimeFault ℕ :=
  match depth.positive with
  | none => .error invalidRecursionDepth
  | some d =>
    if node.maxCalls = 0 ∨ node.maxDepth = 0 then .error recursionNotDeclared
    else if node.maxDepth < d then .error (nodeDepthExhausted node d)
    else if limits.maxRecursionDepth < d then .error (globalDepthExhausted limits d)
    else .ok d

namespace World

variable (limits : ProgramLimits) (w : World)

def claimAttempt : Except RuntimeFault World :=
  if limits.maxTotalAttempts ≤ w.budget.totalAttempts then .error (attemptBudgetExhausted limits)
  else .ok { w with budget := { w.budget with totalAttempts := w.budget.totalAttempts + 1 } }

/-- Enter `operation_slot`. -/
def enterSlot : Except RuntimeFault World :=
  if limits.maxParallelism ≤ w.budget.currentParallelism then
    .error (parallelismBudgetExhausted limits)
  else .ok { w with budget := { w.budget with
    currentParallelism := w.budget.currentParallelism + 1
    maximumParallelismObserved :=
      max w.budget.maximumParallelismObserved (w.budget.currentParallelism + 1).toNat } }

/-- Leave `operation_slot`. -/
def leaveSlot : World :=
  { w with budget := { w.budget with
    currentParallelism := w.budget.currentParallelism - 1 } }

/-- Account one recursive call of depth `d` of a node. -/
def countCall (nodeId : NonEmptyStr) (d : ℕ) : World :=
  { w with
    nodeCalls := Function.update w.nodeCalls nodeId (w.nodeCalls nodeId + 1)
    budget := { w.budget with
      recursiveCalls := w.budget.recursiveCalls + 1
      maximumRecursionDepthObserved := max w.budget.maximumRecursionDepthObserved d } }

def claimRecursion (nodeId : NonEmptyStr) (node : RecursionLimits) (depth : Depth) :
    Except RuntimeFault World :=
  match admittedDepth limits node depth with
  | .error e => .error e
  | .ok d =>
    if node.maxCalls ≤ w.nodeCalls nodeId then .error (nodeCallsExhausted node)
    else if limits.maxRecursiveCalls ≤ w.budget.recursiveCalls then
      .error (globalCallsExhausted limits)
    else .ok (w.countCall nodeId d)

/-- The next item of the queue, when there is one. -/
def takeItem : Option ℕ × World :=
  if w.queue.next < w.queue.size then
    (some w.queue.next, { w with queue := { w.queue with next := w.queue.next + 1 } })
  else (none, w)

end World

end AecBench.ProgramExecution
