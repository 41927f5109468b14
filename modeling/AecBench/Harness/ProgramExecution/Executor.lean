import AecBench.Harness.ProgramExecution.Operations

/-!
# The executor of compiled programs

The executor walks the nodes of a compiled program in their order against a registry of trusted
operations.

## Main definitions

* `executeAction`, `executeVerify`, `executeFanout`, `executeJoin`, `executeBranch`, `executeStop`,
  `executeNode` — the execution of one node.
* `activationError`, `record`, `visit` — whether a node is executed, and what is kept of it.
* `visitAll`, `executeProgram` — the walk over the order of the nodes, and its result.
* `Execution`, `execution` — the result of a run and its trace.

## Implementation notes

Revalidating a compiled program gives it back, so the program is executed as it is.
-/

namespace AecBench.ProgramExecution

open AecBench.Contracts
open Program (leaf)
open Text (NonEmptyStr)
open Validation

/-! ## Reading outputs -/

section Nodes

variable (digest : Json → String) (program : CompiledExecutionProgram)
  (registry : OperationRegistry) (walk : Walk) (node : ProgramNode)

def missingOutputPort (reference : ProgramOutputRef) : RuntimeFault where
  code := ⟨"missing_output_port", by decide⟩
  message := NonEmptyStr.append ⟨"node ", by decide⟩
    (Text.repr reference.nodeId.val ++ " did not produce declared port " ++
      Text.repr reference.outputPort.val)

def resolveOutput (reference : ProgramOutputRef) : Except Raised Json :=
  match (walk.outputs reference.nodeId).bind (·.lookup reference.outputPort.val) with
  | some value => .ok value.copy
  | none => .error (.fault (missingOutputPort reference))

/-- `_input_binding`. -/
def inputBinding (argumentName : NonEmptyStr) (sourceKind : SourceKind)
    (reference : ProgramOutputRef) (value : Json) (fanoutIndex : Option ℕ) :
    InputBindingLineage where
  argumentName := argumentName
  sourceKind := sourceKind
  sourceNodeId := some reference.nodeId
  sourceOutputPort := some reference.outputPort
  fanoutIndex := fanoutIndex
  valueSha256 := digest value

/-- The value of an argument and its lineage. -/
def bindArgument (argument : ProgramArgument) : Except Raised (Json × InputBindingLineage) :=
  match argument.value with
  | .literal value => .ok (value.copy,
      { argumentName := argument.name, sourceKind := .literal, valueSha256 := digest value.copy })
  | .output ref => (resolveOutput walk ref).map fun value =>
      (value, inputBinding digest argument.name .output ref value none)

def bindArguments (arguments : List ProgramArgument) :
    Except Raised (JsonObject × List InputBindingLineage) :=
  (arguments.mapM (bindArgument digest walk)).map fun bound =>
    ((arguments.zip bound).foldl
      (fun values b => Json.setField values b.1.name.val b.2.1) [], bound.map Prod.snd)

def missingOperationHandler (operationId : NonEmptyStr) : RuntimeFault where
  code := ⟨"missing_operation_handler", by decide⟩
  message := NonEmptyStr.append ⟨"no trusted handler was registered for operation ", by decide⟩
    (Text.repr operationId.val)

def operationReferenceMismatch (operationId : NonEmptyStr) : RuntimeFault where
  code := ⟨"operation_reference_mismatch", by decide⟩
  message := NonEmptyStr.append
    ⟨"trusted handler identity does not match compiled operation ", by decide⟩
    (Text.repr operationId.val)

def resolveRegistration (operationId : NonEmptyStr) : Except Raised OperationRegistration :=
  match program.operationRefs.find? fun r => r.operationId = operationId with
  | none => .error (.keyError operationId.val)
  | some reference =>
    match registry.registration operationId with
    | none => .error (.fault (missingOperationHandler operationId))
    | some registration =>
      if registry.resolve reference = none then
        .error (.fault (operationReferenceMismatch operationId))
      else .ok registration

/-! ## Evidence of nodes -/

def operationLineage (registration : OperationRegistration) : OperationLineage where
  operationRef := registration.reference
  bindingIds := registration.bindingIds

def failedEvidence (fault : RuntimeFault) : NodeExecutionEvidence where
  nodeId := node.nodeId
  kind := node.body.kind
  status := .failed
  dependencyNodeIds := node.dependsOn
  errorCode := some fault.code
  errorMessage := some fault.message

def skippedEvidence (errorCode : NonEmptyStr) : NodeExecutionEvidence where
  nodeId := node.nodeId
  kind := node.body.kind
  status := .skipped
  dependencyNodeIds := node.dependsOn
  errorCode := some errorCode

/-- The evidence of a node that succeeds without invoking an operation. -/
def succeededEvidence (bindings : List InputBindingLineage) (outputs : JsonObject)
    (selected : Option NonEmptyStr) : NodeExecutionEvidence where
  nodeId := node.nodeId
  kind := node.body.kind
  status := .succeeded
  dependencyNodeIds := node.dependsOn
  inputBindings := bindings
  outputs := outputs
  selectedSuccessorNodeId := selected

def executedOperationNode (registration : OperationRegistration)
    (bindings : List InputBindingLineage) (invocation : InvocationResult) : ExecutedNode where
  evidence :=
    { nodeId := node.nodeId
      kind := node.body.kind
      status := if invocation.succeeded then .succeeded else .failed
      dependencyNodeIds := node.dependsOn
      inputBindings := bindings
      operationLineage := some (operationLineage registration)
      attempts := invocation.attempts
      outputs := invocation.outputs
      errorCode := invocation.errorCode
      errorMessage := invocation.errorMessage }
  fatal := invocation.fatal

/-- Mark that the node starts its work. -/
def start : Method Unit := call (.execute node walk)

/-! ## Actions and verifications -/

/-- An operation that is ready to be invoked, with the lineage of its arguments. -/
structure Prepared where
  invocation : Invocation
  bindings : List InputBindingLineage

def prepareAction (n : ActionNode) : Except Raised Prepared := do
  let (arguments, bindings) ← bindArguments digest walk n.arguments
  let registration ← resolveRegistration program registry n.operationId
  .ok { invocation :=
          { nodeId := node.nodeId
            registration := registration
            arguments := arguments
            retry := n.retry
            recursion := n.recursion
            fanoutIndex := none }
        bindings := bindings }

def reservedSubject : RuntimeFault where
  code := ⟨"reserved_argument_collision", by decide⟩
  message := NonEmptyStr.append ⟨"verify node ", by decide⟩
    (Text.repr node.nodeId.val ++ " declares reserved argument 'subject'")

def subjectName : NonEmptyStr := ⟨"subject", by decide⟩

def prepareVerify (n : VerifyNode) : Except Raised Prepared := do
  let (arguments, bindings) ← bindArguments digest walk n.arguments
  require (Json.hasField arguments subjectName.val = false) (.fault (reservedSubject node))
  let subject ← resolveOutput walk n.subject
  let registration ← resolveRegistration program registry n.operationId
  .ok { invocation :=
          { nodeId := node.nodeId
            registration := registration
            arguments := Json.setField arguments subjectName.val subject
            retry := n.retry
            recursion := none
            fanoutIndex := none }
        bindings := bindings ++
          [inputBinding digest subjectName .verifySubject n.subject subject none] }

/-- Invoke a prepared operation once. -/
def executeOperation (prepared : Except Raised Prepared) : Method ExecutedNode :=
  start walk node >>= fun _ =>
    leaf prepared >>= fun p =>
      invoke digest program.ref p.invocation >>= fun invocation =>
        .done (executedOperationNode node p.invocation.registration p.bindings invocation)

def executeAction (n : ActionNode) : Method ExecutedNode :=
  executeOperation digest program walk node (prepareAction digest program registry walk node n)

def executeVerify (n : VerifyNode) : Method ExecutedNode :=
  executeOperation digest program walk node (prepareVerify digest program registry walk node n)

/-! ## Fan-outs -/

def itemCollision : RuntimeFault where
  code := ⟨"reserved_argument_collision", by decide⟩
  message := NonEmptyStr.append ⟨"fanout node ", by decide⟩
    (Text.repr node.nodeId.val ++ " item argument collides with a declared argument")

def itemsNotArray : RuntimeFault where
  code := ⟨"fanout_items_not_array", by decide⟩
  message := NonEmptyStr.append ⟨"fanout node ", by decide⟩
    (Text.repr node.nodeId.val ++ " items port must contain a JSON array")

/-- A fan-out that is ready to be run: its items, and the arguments they share. -/
structure PreparedFanout where
  arguments : JsonObject
  items : List Json
  registration : OperationRegistration
  bindings : List InputBindingLineage

def itemsName : NonEmptyStr := ⟨"items", by decide⟩

def requireArray (value : Json) : Except Raised (List Json) :=
  match value with
  | .array items => .ok items
  | _ => .error (.fault (itemsNotArray node))

def prepareFanout (n : FanoutNode) : Except Raised PreparedFanout := do
  let (arguments, bindings) ← bindArguments digest walk n.arguments
  require (Json.hasField arguments n.itemArgument.val = false) (.fault (itemCollision node))
  let value ← resolveOutput walk n.items
  let items ← requireArray node value
  let registration ← resolveRegistration program registry n.operationId
  .ok { arguments := arguments
        items := items
        registration := registration
        bindings := bindings ++ inputBinding digest itemsName .fanoutItems n.items value none ::
          items.mapIdx fun index item =>
            inputBinding digest n.itemArgument .fanoutItem n.items item (some index) }

/-- The invocation of one item of a fan-out. -/
def itemInvocation (n : FanoutNode) (p : PreparedFanout) (index : ℕ) : Invocation where
  nodeId := node.nodeId
  registration := p.registration
  arguments := Json.setField (Json.copyObject p.arguments) n.itemArgument.val
    (p.items.getD index .null).copy
  retry := n.retry
  recursion := n.recursion
  fanoutIndex := some index

/-- The workers of a fan-out. -/
def maxWorkers (n : FanoutNode) (registration : OperationRegistration) : ℕ :=
  min n.maxParallelism (min registration.maxParallelism program.limits.maxParallelism)

/-- What the future of an item gives back; every item was run. -/
def futureResult (results : List (ℕ × Except Raised InvocationResult)) (index : ℕ) :
    Except Raised InvocationResult :=
  (results.lookup index).getD (.error .assertionError)

/-- The order of the attempts of a fan-out: by the item, then by the attempt. -/
def attemptBefore (a b : OperationAttemptEvidence) : Prop :=
  let index := fun attempt : OperationAttemptEvidence => attempt.fanoutIndex.elim (-1 : ℤ) (↑)
  index a < index b ∨ index a = index b ∧ a.attemptIndex ≤ b.attemptIndex

instance (a b : OperationAttemptEvidence) : Decidable (attemptBefore a b) :=
  inferInstanceAs (Decidable (_ ∨ _ ∧ _))

def sortedAttempts (invocations : List InvocationResult) : List OperationAttemptEvidence :=
  (invocations.flatMap InvocationResult.attempts).insertionSort attemptBefore

def inconsistentOutputPorts : RuntimeFault where
  code := ⟨"inconsistent_fanout_output_ports", by decide⟩
  message := ⟨"fanout handler invocations produced inconsistent output ports", by decide⟩

/-- The output ports of an invocation, in order. -/
def outputPorts (outputs : JsonObject) : List String := (outputs.map Prod.fst).insertionSort (· ≤ ·)

/-- `_aggregate_fanout_outputs`. -/
def aggregateFanoutOutputs (invocations : List InvocationResult) : Except Raised JsonObject :=
  match invocations with
  | [] => .ok [("result", .array [])]
  | first :: rest =>
    let ports := outputPorts first.outputs
    if rest.any fun invocation => outputPorts invocation.outputs ≠ ports then
      .error (.fault inconsistentOutputPorts)
    else .ok (ports.map fun port => (port, .array (invocations.map fun invocation =>
      ((invocation.outputs.lookup port).getD .null).copy)))

def fanoutItemFailed : NonEmptyStr := ⟨"fanout_item_failed", by decide⟩

/-- The evidence of a fan-out from the results of its items. -/
def fanoutOutcome (p : PreparedFanout) (invocations : List InvocationResult) :
    Except Raised ExecutedNode :=
  let evidence : NodeExecutionEvidence :=
    { nodeId := node.nodeId
      kind := node.body.kind
      status := .succeeded
      dependencyNodeIds := node.dependsOn
      inputBindings := p.bindings
      operationLineage := some (operationLineage p.registration)
      attempts := sortedAttempts invocations }
  match invocations.find? fun invocation => !invocation.succeeded with
  | some failure => .ok
    { evidence := { evidence with
        status := .failed
        errorCode := some (failure.errorCode.getD fanoutItemFailed)
        errorMessage := failure.errorMessage }
      fatal := failure.fatal }
  | none => (aggregateFanoutOutputs invocations).map fun outputs =>
    { evidence := { evidence with outputs := outputs } }

/-- The pool of workers that runs the items. -/
def runItems (n : FanoutNode) (p : PreparedFanout) :
    Method (List (ℕ × Except Raised InvocationResult)) :=
  Program.threadPool () .choose .take
    (fun index => invoke digest program.ref (itemInvocation node n p index))
    (maxWorkers program n p.registration) p.items.length

def executeFanout (n : FanoutNode) : Method ExecutedNode :=
  start walk node >>= fun _ =>
    leaf (prepareFanout digest program registry walk node n) >>= fun p =>
      call (.openQueue node.nodeId p.items.length) >>= fun _ =>
        runItems digest program node n p >>= fun results =>
          leaf ((List.range p.items.length).mapM (futureResult results)) >>= fun invocations =>
            leaf (fanoutOutcome node p invocations)

/-! ## Joins, branches and stops -/

/-- The sources of a join that succeeded, with their outputs. -/
def availableSources (n : JoinNode) : Except Raised (List (ProgramOutputRef × Json)) :=
  (n.sources.filter fun source => walk.statuses source.nodeId = some .succeeded).mapM fun source =>
    (resolveOutput walk source).map fun value => (source, value)

def joinNotReady (message : String) : RuntimeFault where
  code := ⟨"join_sources_not_ready", by decide⟩
  message := NonEmptyStr.append ⟨"join node ", by decide⟩ (Text.repr node.nodeId.val ++ message)

def resultPort : String := "result"

/-- The outcome of a join over its available sources. -/
def joined (n : JoinNode) (available : List (ProgramOutputRef × Json)) : ExecutedNode :=
  let selected := if n.strategy = .firstSuccess then available.take 1 else available
  let values := selected.map fun s => s.2.copy
  let result := if n.strategy = .firstSuccess then values.headD .null else .array values
  let bindings := selected.mapIdx fun index s =>
    inputBinding digest (NonEmptyStr.append ⟨"source[", by decide⟩ s!"{index}]") .joinSource s.1
      s.2.copy none
  { evidence := succeededEvidence node bindings
      [(resultPort, result),
        ("source_node_ids", .array (selected.map fun s => .str s.1.nodeId.val))] none }

def executeJoin (n : JoinNode) : Method ExecutedNode :=
  leaf (availableSources walk n) >>= fun available =>
    if n.strategy = .all ∧ available.length ≠ n.sources.length then
      .done { evidence := failedEvidence node (joinNotReady node " requires all sources to succeed") }
    else if available = [] then
      .done { evidence := failedEvidence node (joinNotReady node " has no successful sources") }
    else start walk node >>= fun _ => .done (joined digest node n available)

def invalidBranchOperands (operator : BranchOperator) : RuntimeFault where
  code := ⟨"invalid_branch_operands", by decide⟩
  message := NonEmptyStr.append ⟨"branch operator ", by decide⟩
    (Text.repr operator.value ++ " cannot compare the supplied values")

/-- The comparison of a branch, or nothing when it raises a `TypeError`. -/
def compareValues (value : Json) (operator : BranchOperator) (expected : Json) : Option Bool :=
  match operator with
  | .equals => some (Json.eq value expected)
  | .notEquals => some !(Json.eq value expected)
  | .greaterThan => Json.lessThan? expected value
  | .greaterThanOrEqual => Json.atMost? expected value
  | .lessThan => Json.lessThan? value expected
  | .lessThanOrEqual => Json.atMost? value expected
  | .contains => Json.contains? value expected
  | .valueExists => some !value.isNull

def evaluateBranch (value : Json) (operator : BranchOperator) (expected : Json) :
    Except Raised Bool :=
  match compareValues value operator expected with
  | some answer => .ok answer
  | none => .error (.fault (invalidBranchOperands operator))

def conditionName : NonEmptyStr := ⟨"condition", by decide⟩

def branched (n : BranchNode) : Except Raised ExecutedNode := do
  let value ← resolveOutput walk n.condition.value
  let answer ← evaluateBranch value n.condition.operator n.condition.expected
  let selected := if answer then n.trueNodeId else n.falseNodeId
  .ok { evidence := succeededEvidence node
          [inputBinding digest conditionName .branchCondition n.condition.value value none]
          [("selected_node_id", .str selected.val)] (some selected) }

def executeBranch (n : BranchNode) : Method ExecutedNode :=
  start walk node >>= fun _ => leaf (branched digest walk node n)

def resultName : NonEmptyStr := ⟨"result", by decide⟩

def stopped (n : StopNode) : Except Raised ExecutedNode :=
  match n.result with
  | none => .ok { evidence := succeededEvidence node [] [(resultPort, .null)] none }
  | some reference => (resolveOutput walk reference).map fun value =>
    { evidence := succeededEvidence node
        [inputBinding digest resultName .stopResult reference value none] [(resultPort, value)]
        none }

def executeStop (n : StopNode) : Method ExecutedNode :=
  start walk node >>= fun _ => leaf (stopped digest walk node n)

/-! ## One node -/

/-- The execution of a node, before faults are caught. -/
def executeBody : Method ExecutedNode :=
  match node.body with
  | .action n => executeAction digest program registry walk node n
  | .fanout n => executeFanout digest program registry walk node n
  | .join n => executeJoin digest walk node n
  | .branch n => executeBranch digest walk node n
  | .verify n => executeVerify digest program registry walk node n
  | .stop n => executeStop digest walk node n

/-- `_execute_node`. -/
def executeNode : Method ExecutedNode :=
  (executeBody digest program registry walk node).result >>= fun
    | .ok executed => .done executed
    | .error (.fault fault) => .done { evidence := failedEvidence node fault, fatal := true }
    | .error e => .fail e

/-! ## Activation -/

/-- The branches that target a node. -/
def branchControls (nodeId : NonEmptyStr) : List NonEmptyStr :=
  ((program.nodes.filter fun n => nodeId ∈ n.body.targets).map ProgramNode.nodeId).insertionSort
    fun a b => a.val ≤ b.val

def branchNotActive : NonEmptyStr := ⟨"branch_not_active", by decide⟩
def branchNotSelected : NonEmptyStr := ⟨"branch_not_selected", by decide⟩
def inactiveDependency : NonEmptyStr := ⟨"inactive_dependency", by decide⟩
def programAlreadyTerminated : NonEmptyStr := ⟨"program_already_terminated", by decide⟩

/-- `_activation_error`. -/
def activationError : Option NonEmptyStr :=
  let controls := branchControls program node.nodeId
  if controls.any fun branchId => walk.branchChoices branchId = none then some branchNotActive
  else if controls.any fun branchId => walk.branchChoices branchId ≠ some node.nodeId then
    some branchNotSelected
  else if node.body.kind = .join then none
  else if node.dependsOn.any fun dependency => walk.statuses dependency ≠ some .succeeded then
    some inactiveDependency
  else none

/-! ## The walk -/

def nodeExecutionFailed : NonEmptyStr := ⟨"node_execution_failed", by decide⟩
def runtimeFaultCode : NonEmptyStr := ⟨"runtime_fault", by decide⟩

/-- The first failure of the program, from the evidence of a failed node. -/
def failureOf (evidence : NodeExecutionEvidence) : RuntimeFault where
  code := evidence.errorCode.getD nodeExecutionFailed
  message := evidence.errorMessage.getD
    (NonEmptyStr.append ⟨"node ", by decide⟩ (Text.repr node.nodeId.val ++ " failed"))

/-- The fault that ends the program, from the evidence of a node that is fatal. -/
def fatalFaultOf (evidence : NodeExecutionEvidence) : RuntimeFault where
  code := evidence.errorCode.getD runtimeFaultCode
  message := evidence.errorMessage.getD
    (NonEmptyStr.append ⟨"fatal runtime fault at node ", by decide⟩ (Text.repr node.nodeId.val))

/-- The evidence, status and outputs of a node that was visited. -/
def recordEvidence (evidence : NodeExecutionEvidence) : Walk :=
  { walk with
    evidence := walk.evidence ++ [evidence]
    statuses := Function.update walk.statuses node.nodeId (some evidence.status)
    outputs :=
      if evidence.status = .succeeded then
        Function.update walk.outputs node.nodeId (some evidence.outputs)
      else walk.outputs
    firstFailure :=
      if evidence.status = .failed ∧ walk.firstFailure = none then some (failureOf node evidence)
      else walk.firstFailure }

/-- The choice of a branch that succeeded. -/
def recordChoice (evidence : NodeExecutionEvidence) : Except Raised Walk :=
  if node.body.kind = .branch ∧ evidence.status = .succeeded then
    match evidence.selectedSuccessorNodeId with
    | none => .error .assertionError
    | some selected => .ok
      { walk with
        branchChoices := Function.update walk.branchChoices node.nodeId (some selected) }
  else .ok walk

/-- A stop that was reached ends the program. -/
def recordStop (evidence : NodeExecutionEvidence) : Walk :=
  match node.body with
  | .stop n =>
    if evidence.status = .succeeded then
      { walk with
        terminal := some (node.nodeId, n, (evidence.outputs.lookup resultPort).getD .null)
        terminated := true }
    else walk
  | _ => walk

/-- A fatal fault ends the program. -/
def recordFatal (executed : ExecutedNode) : Walk :=
  if executed.fatal then
    { walk with
      fatalFault := some (fatalFaultOf node executed.evidence)
      terminated := true }
  else walk

/-- What the executor keeps of a node that was visited. -/
def record (executed : ExecutedNode) : Except Raised Walk :=
  (recordChoice (recordEvidence walk node executed.evidence) node executed.evidence).map fun w =>
    recordFatal (recordStop w node executed.evidence) node executed

/-- Skip or execute a node. -/
def visitNode : Method ExecutedNode :=
  if walk.terminated then .done { evidence := skippedEvidence node programAlreadyTerminated }
  else
    match activationError program walk node with
    | some error => .done { evidence := skippedEvidence node error }
    | none => executeNode digest program registry walk node

def visit (nodeId : NonEmptyStr) : Method Walk :=
  match program.nodeById nodeId with
  | none => .fail (.keyError nodeId.val)
  | some node =>
    visitNode digest program registry walk node >>= fun executed => leaf (record walk node executed)

end Nodes

section Programs

variable (digest : Json → String) (program : CompiledExecutionProgram)
  (registry : OperationRegistry)

def visitAll : List NonEmptyStr → Walk → Method Walk
  | [], walk => .done walk
  | nodeId :: rest, walk => visit digest program registry walk nodeId >>= visitAll rest

/-! ## The result -/

def StopOutcome.status : StopOutcome → ProgramExecutionStatus
  | .succeeded => .succeeded
  | .failed => .failed
  | .stopped => .stopped

def noActiveStop : RuntimeFault where
  code := ⟨"no_active_stop", by decide⟩
  message := ⟨"program completed without an active stop node", by decide⟩

def stopFailed : NonEmptyStr := ⟨"stop_failed", by decide⟩

/-- The part of the result that only depends on the budget and the evidence. -/
def accountedResult (walk : Walk) (budget : RuntimeBudget) : ProgramExecutionResult where
  programRef := program.ref
  status := .failed
  totalAttempts := budget.totalAttempts
  maximumParallelismObserved := budget.maximumParallelismObserved
  recursiveCalls := budget.recursiveCalls
  maximumRecursionDepth := budget.maximumRecursionDepthObserved
  nodeEvidence := walk.evidence

def failedResult (walk : Walk) (budget : RuntimeBudget) (failure : RuntimeFault) :
    ProgramExecutionResult :=
  { accountedResult program walk budget with
    errorCode := some failure.code
    errorMessage := some failure.message }

def stoppedResult (walk : Walk) (budget : RuntimeBudget)
    (terminal : NonEmptyStr × StopNode × Json) : ProgramExecutionResult :=
  let stop := terminal.2.1
  { accountedResult program walk budget with
    status := StopOutcome.status stop.outcome
    stopNodeId := some terminal.1
    result := terminal.2.2
    message := stop.message
    errorCode := if stop.outcome = .failed then some stopFailed else none
    errorMessage := if stop.outcome = .failed then stop.message else none }

/-- The result before it is validated. -/
def terminalResult (walk : Walk) (budget : RuntimeBudget) : ProgramExecutionResult :=
  match walk.fatalFault.or walk.firstFailure with
  | some failure => failedResult program walk budget failure
  | none =>
    match walk.terminal with
    | some terminal => stoppedResult program walk budget terminal
    | none => failedResult program walk budget noActiveStop

def validated (r : ProgramExecutionResult) : Except Raised ProgramExecutionResult :=
  match r.validateTerminalShape with
  | .ok _ => .ok r
  | .error message => .error (.validationError [⟨[], message⟩])

/-- `execute_program`. -/
def executeProgram : Method ProgramExecutionResult :=
  visitAll digest program registry program.topologicalOrder {} >>= fun walk =>
    call .readBudget >>= fun budget => leaf (validated (terminalResult program walk budget))

/-- A run of a program: its result and the operations it called. -/
structure Execution where
  result : Except Raised ProgramExecutionResult
  trace : List (Program.Step Op Raised)

/-- The run of a program in an environment. -/
def execution (input : ℕ → Input) : Execution :=
  let env : Program.Env Input World := { disturb := fun _ w => w, input := input }
  let method := executeProgram digest program registry
  { result := (method.exec (semantics program.limits) env 0 {}).1
    trace := method.trace (semantics program.limits) env 0 {} }

end Programs

end AecBench.ProgramExecution
