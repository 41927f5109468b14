import AecBench.Lib.Json
import AecBench.Lib.Validation

/-!
# Execution programs

Execution programs are graphs of action, fan-out, join, branch, verify and stop nodes with bounded
retry and recursion. A compiled program also fixes the order of its nodes.

## Main definitions

* `RetryPolicy`, `RecursionPolicy`, `ProgramLimits` — the finite budgets of nodes and programs.
* `ProgramNode`, `ProgramNodeBody` — the six kinds of nodes.
* `validateProgramGraph`, `validateTopologicalOrder`, `validateOperationRefs` — the validators of a
  compiled program; `CompiledExecutionProgram` carries their success.

## Main results

* `CompiledExecutionProgram.dependency_before` — a dependency of a node comes before it.
* `CompiledExecutionProgram.exists_after` — a node that is no stop comes before another node.
-/

namespace AecBench.Contracts

open Text (NonEmptyStr)
open Validation

/-! ## Policies -/

inductive ProgramNodeKind
  | action | fanout | join | branch | verify | stop
  deriving DecidableEq

/-- The comparison operators of branches; `valueExists` is `exists`. -/
inductive BranchOperator
  | equals | notEquals | greaterThan | greaterThanOrEqual | lessThan | lessThanOrEqual | contains
  | valueExists
  deriving DecidableEq

def BranchOperator.value : BranchOperator → String
  | .equals => "equals"
  | .notEquals => "not_equals"
  | .greaterThan => "greater_than"
  | .greaterThanOrEqual => "greater_than_or_equal"
  | .lessThan => "less_than"
  | .lessThanOrEqual => "less_than_or_equal"
  | .contains => "contains"
  | .valueExists => "exists"

inductive JoinStrategy
  | all | any | firstSuccess
  deriving DecidableEq

inductive StopOutcome
  | succeeded | failed | stopped
  deriving DecidableEq

/-- Finite retry budget attached to an executable program node. -/
structure RetryPolicy where
  maxAttempts : ℕ
  backoffSeconds : ℚ
  retryOn : List NonEmptyStr
  attempts_bounds : 1 ≤ maxAttempts ∧ maxAttempts ≤ 100
  backoff_bounds : 0 ≤ backoffSeconds ∧ backoffSeconds ≤ 3600
  retryOn_nodup : retryOn.Nodup
  no_wildcard : ∀ code ∈ retryOn, code.val ≠ "*"
  explicit_codes : 1 < maxAttempts → retryOn ≠ []

/-- Finite recursion budget attached to a recursive action or fan-out. -/
structure RecursionPolicy where
  maxDepth : ℕ
  maxCalls : ℕ
  depth_bounds : 1 ≤ maxDepth ∧ maxDepth ≤ 32
  calls_bounds : 1 ≤ maxCalls ∧ maxCalls ≤ 1024

/-- Program-wide resource bounds enforced in addition to node-local policies. -/
structure ProgramLimits where
  maxNodes : ℕ := 256
  maxParallelism : ℕ := 32
  maxTotalAttempts : ℕ := 256
  maxRecursionDepth : ℕ := 8
  maxRecursiveCalls : ℕ := 128
  nodes_bounds : 1 ≤ maxNodes ∧ maxNodes ≤ 10000
  parallelism_bounds : 1 ≤ maxParallelism ∧ maxParallelism ≤ 256
  attempts_bounds : 1 ≤ maxTotalAttempts ∧ maxTotalAttempts ≤ 10000
  depth_bounds : maxRecursionDepth ≤ 32
  calls_bounds : maxRecursiveCalls ≤ 1024

/-! ## Nodes -/

/-- Reference to one named output produced by an upstream node. -/
structure ProgramOutputRef where
  nodeId : NonEmptyStr
  outputPort : NonEmptyStr

inductive ProgramValue
  | literal (value : Json)
  | output (ref : ProgramOutputRef)

/-- Named operation argument with an explicit literal or upstream source. -/
structure ProgramArgument where
  name : NonEmptyStr
  value : ProgramValue

/-- Closed condition evaluated over one upstream node output. -/
structure BranchCondition where
  value : ProgramOutputRef
  operator : BranchOperator
  expected : Json := .null

structure ActionNode where
  operationId : NonEmptyStr
  arguments : List ProgramArgument
  retry : Option RetryPolicy := none
  recursion : Option RecursionPolicy := none
  arguments_nodup : (arguments.map ProgramArgument.name).Nodup

structure FanoutNode where
  operationId : NonEmptyStr
  items : ProgramOutputRef
  itemArgument : NonEmptyStr
  arguments : List ProgramArgument
  maxParallelism : ℕ := 1
  retry : Option RetryPolicy := none
  recursion : Option RecursionPolicy := none
  arguments_nodup : (arguments.map ProgramArgument.name).Nodup
  parallelism_bounds : 1 ≤ maxParallelism ∧ maxParallelism ≤ 256

structure JoinNode where
  sources : List ProgramOutputRef
  strategy : JoinStrategy := .all
  two_sources : 2 ≤ sources.length
  sources_nodup : sources.Nodup

structure BranchNode where
  condition : BranchCondition
  trueNodeId : NonEmptyStr
  falseNodeId : NonEmptyStr
  targets_ne : trueNodeId ≠ falseNodeId

structure VerifyNode where
  operationId : NonEmptyStr
  subject : ProgramOutputRef
  arguments : List ProgramArgument
  retry : Option RetryPolicy := none
  arguments_nodup : (arguments.map ProgramArgument.name).Nodup

structure StopNode where
  outcome : StopOutcome
  result : Option ProgramOutputRef := none
  message : Option NonEmptyStr := none

inductive ProgramNodeBody
  | action (node : ActionNode)
  | fanout (node : FanoutNode)
  | join (node : JoinNode)
  | branch (node : BranchNode)
  | verify (node : VerifyNode)
  | stop (node : StopNode)

namespace ProgramNodeBody

def kind : ProgramNodeBody → ProgramNodeKind
  | .action _ => .action
  | .fanout _ => .fanout
  | .join _ => .join
  | .branch _ => .branch
  | .verify _ => .verify
  | .stop _ => .stop

/-- The targets of a branch. -/
def targets : ProgramNodeBody → List NonEmptyStr
  | .branch node => [node.trueNodeId, node.falseNodeId]
  | _ => []

/-- The operation that the node invokes. -/
def operationId? : ProgramNodeBody → Option NonEmptyStr
  | .action node => some node.operationId
  | .fanout node => some node.operationId
  | .verify node => some node.operationId
  | _ => none

def retry? : ProgramNodeBody → Option RetryPolicy
  | .action node => node.retry
  | .fanout node => node.retry
  | .verify node => node.retry
  | _ => none

def recursion? : ProgramNodeBody → Option RecursionPolicy
  | .action node => node.recursion
  | .fanout node => node.recursion
  | _ => none

end ProgramNodeBody

structure ProgramNode where
  nodeId : NonEmptyStr
  dependsOn : List NonEmptyStr
  body : ProgramNodeBody
  dependencies_nodup : dependsOn.Nodup
  not_self : nodeId ∉ dependsOn
  not_target : nodeId ∉ body.targets

/-- Stable reference used to resolve one exported operation. -/
structure ProgramOperationRef where
  operationId : NonEmptyStr
  deriving DecidableEq

/-- Stable reference to one proposed or compiled execution program version. -/
structure ExecutionProgramRef where
  programId : NonEmptyStr
  version : NonEmptyStr

/-! ## Validators -/

def sortedIds (ids : List NonEmptyStr) : List String :=
  (ids.map NonEmptyStr.val).insertionSort (· ≤ ·)

def argumentReferenceIds (arguments : List ProgramArgument) : List NonEmptyStr :=
  arguments.filterMap fun argument =>
    match argument.value with
    | .literal _ => none
    | .output ref => some ref.nodeId

def referencedNodeIds (node : ProgramNode) : List NonEmptyStr :=
  match node.body with
  | .action n => argumentReferenceIds n.arguments
  | .fanout n => argumentReferenceIds n.arguments ++ [n.items.nodeId]
  | .join n => n.sources.map ProgramOutputRef.nodeId
  | .branch n => [n.condition.value.nodeId]
  | .verify n => argumentReferenceIds n.arguments ++ [n.subject.nodeId]
  | .stop n => n.result.toList.map ProgramOutputRef.nodeId

def validateProgramSize (nodes : List ProgramNode) (limits : ProgramLimits) :
    Except String Unit := do
  require (nodes ≠ []) "execution program must include at least one node"
  require (nodes.length ≤ limits.maxNodes)
    s!"program node count {nodes.length} exceeds program limit {limits.maxNodes}"

def validateDeclaredDependencies (known : List NonEmptyStr) (node : ProgramNode) :
    Except String Unit :=
  require (∀ dependency ∈ node.dependsOn, dependency ∈ known)
    (s!"program node {Text.repr node.nodeId.val} has unknown dependencies: " ++
      ", ".intercalate (sortedIds (node.dependsOn.filter (· ∉ known))))

def validateDeclaredReferences (node : ProgramNode) : Except String Unit :=
  require (∀ id ∈ referencedNodeIds node, id ∈ node.dependsOn)
    (s!"program node {Text.repr node.nodeId.val} references nodes that are not declared " ++
      "dependencies: " ++
        ", ".intercalate (sortedIds ((referencedNodeIds node).dedup.filter (· ∉ node.dependsOn))))

def validateBranchTarget (nodes : List ProgramNode) (branchId targetId : NonEmptyStr) :
    Except String Unit :=
  match nodes.find? fun node => node.nodeId = targetId with
  | none => .error s!"branch node {Text.repr branchId.val} has unknown target: {targetId.val}"
  | some target =>
    require (branchId ∈ target.dependsOn)
      s!"branch target {Text.repr targetId.val} must depend on branch {Text.repr branchId.val}"

def validateNodeRelationships (nodes : List ProgramNode) (node : ProgramNode) :
    Except String Unit := do
  validateDeclaredDependencies (nodes.map ProgramNode.nodeId) node
  validateDeclaredReferences node
  let _ ← node.body.targets.mapM (validateBranchTarget nodes node.nodeId)
  pure ()

/-- The rounds that remove the nodes whose dependencies are all removed; every round removes one,
so there are at most as many rounds as nodes. -/
def validateAcyclic : ℕ → List (NonEmptyStr × List NonEmptyStr) → Except String Unit
  | 0, _ => .ok ()
  | rounds + 1, remaining =>
    if remaining.isEmpty then .ok ()
    else
      let ready := (remaining.filter fun r => r.2.isEmpty).map Prod.fst
      if ready.isEmpty then .error "program graph must be acyclic"
      else validateAcyclic rounds
        ((remaining.filter fun r => !r.2.isEmpty).map fun r => (r.1, r.2.filter (· ∉ ready)))

def validateTerminals (nodes : List ProgramNode) : Except String Unit :=
  let withDependents := nodes.flatMap ProgramNode.dependsOn
  require (∀ node ∈ nodes, node.nodeId ∈ withDependents ∨ node.body.kind = .stop)
    ("terminal nodes must be stop nodes: " ++ ", ".intercalate (sortedIds
      ((nodes.filter fun node =>
        node.nodeId ∉ withDependents ∧ node.body.kind ≠ .stop).map ProgramNode.nodeId)))

def validateFanoutParallelism (limits : ProgramLimits) (node : ProgramNode) : Except String Unit :=
  match node.body with
  | .fanout n =>
    require (n.maxParallelism ≤ limits.maxParallelism)
      s!"fanout parallelism {n.maxParallelism} exceeds program limit {limits.maxParallelism}"
  | _ => .ok ()

def validateProgramLimits (nodes : List ProgramNode) (limits : ProgramLimits) :
    Except String Unit := do
  let retries := nodes.filterMap fun node => node.body.retry?
  let totalAttempts := (retries.map RetryPolicy.maxAttempts).sum
  require (totalAttempts ≤ limits.maxTotalAttempts)
    s!"retry attempts {totalAttempts} exceed program limit {limits.maxTotalAttempts}"
  let policies := nodes.filterMap fun node => node.body.recursion?
  let _ ← policies.mapM fun policy => require (policy.maxDepth ≤ limits.maxRecursionDepth)
    s!"recursion depth {policy.maxDepth} exceeds program limit {limits.maxRecursionDepth}"
  let recursiveCalls := (policies.map RecursionPolicy.maxCalls).sum
  require (recursiveCalls ≤ limits.maxRecursiveCalls)
    s!"recursive calls {recursiveCalls} exceed program limit {limits.maxRecursiveCalls}"
  let _ ← nodes.mapM (validateFanoutParallelism limits)
  pure ()

def validateProgramGraph (nodes : List ProgramNode) (limits : ProgramLimits) :
    Except String Unit := do
  validateProgramSize nodes limits
  require (nodes.map ProgramNode.nodeId).Nodup "program node ids must be unique"
  let _ ← nodes.mapM (validateNodeRelationships nodes)
  validateAcyclic nodes.length (nodes.map fun node => (node.nodeId, node.dependsOn))
  validateTerminals nodes
  validateProgramLimits nodes limits

/-- The dependencies of the node that the order places after it. -/
def misplaced (order : List NonEmptyStr) (node : ProgramNode) : List NonEmptyStr :=
  node.dependsOn.filter fun dependency => order.idxOf node.nodeId < order.idxOf dependency

/-- The first of the ids in the order. -/
def firstPlaced (order : List NonEmptyStr) (ids : List NonEmptyStr) : String :=
  ((order.find? (· ∈ ids)).map NonEmptyStr.val).getD ""

def validateTopologicalOrder (nodes : List ProgramNode) (order : List NonEmptyStr) :
    Except String Unit := do
  require (order.Nodup ∧ (∀ id ∈ order, id ∈ nodes.map ProgramNode.nodeId) ∧
      ∀ node ∈ nodes, node.nodeId ∈ order)
    "topological_order must contain every program node exactly once"
  let _ ← nodes.mapM fun node => require (misplaced order node = [])
    (s!"topological_order places dependency " ++
      s!"{Text.repr (firstPlaced order (misplaced order node))} after " ++
        Text.repr node.nodeId.val)
  pure ()

def validateOperationRefs (nodes : List ProgramNode) (operationRefs : List ProgramOperationRef) :
    Except String Unit :=
  let invoked := nodes.filterMap fun node => node.body.operationId?
  let ids := operationRefs.map ProgramOperationRef.operationId
  require (ids.Nodup ∧ (∀ id ∈ ids, id ∈ invoked) ∧ ∀ id ∈ invoked, id ∈ ids)
    "operation_refs must resolve every invoked operation exactly once"

def validateCompiledProgram (nodes : List ProgramNode) (limits : ProgramLimits)
    (order : List NonEmptyStr) (operationRefs : List ProgramOperationRef) :
    Except String Unit := do
  validateProgramGraph nodes limits
  validateTopologicalOrder nodes order
  validateOperationRefs nodes operationRefs

/-! ## Compiled programs -/

/-- A program accepted against one exact operation surface. -/
structure CompiledExecutionProgram where
  programId : NonEmptyStr
  version : NonEmptyStr
  nodes : List ProgramNode
  limits : ProgramLimits
  topologicalOrder : List NonEmptyStr
  operationRefs : List ProgramOperationRef
  valid : validateCompiledProgram nodes limits topologicalOrder operationRefs = .ok ()

namespace CompiledExecutionProgram

variable (program : CompiledExecutionProgram)

def ref : ExecutionProgramRef := { programId := program.programId, version := program.version }

/-- The node with an id. -/
def nodeById (id : NonEmptyStr) : Option ProgramNode :=
  program.nodes.find? fun node => node.nodeId = id

/-! ### What the validators check -/

lemma valid_parts :
    validateProgramGraph program.nodes program.limits = .ok () ∧
      validateTopologicalOrder program.nodes program.topologicalOrder = .ok () ∧
        validateOperationRefs program.nodes program.operationRefs = .ok () := by
  have h := program.valid
  simp only [validateCompiledProgram, unit_bind_eq_ok] at h
  exact h

lemma graph_parts :
    (program.nodes.map ProgramNode.nodeId).Nodup ∧
      (∀ node ∈ program.nodes, validateNodeRelationships program.nodes node = .ok ()) ∧
        validateTerminals program.nodes = .ok () ∧
          validateProgramLimits program.nodes program.limits = .ok () := by
  have h := program.valid_parts.1
  simp only [validateProgramGraph, bind_eq_ok, require_eq_ok, Unique.exists_iff] at h
  obtain ⟨-, hnodup, us, hus, -, hterminals, hlimits⟩ := h
  refine ⟨hnodup, fun node hnode => ?_, hterminals, hlimits⟩
  obtain ⟨u, hu⟩ := exists_of_mapM_eq_ok hus node hnode
  exact hu

lemma nodes_nodup : (program.nodes.map ProgramNode.nodeId).Nodup := program.graph_parts.1

variable {program} {node node' : ProgramNode} {id : NonEmptyStr}

lemma eq_of_nodeId (h : node ∈ program.nodes) (h' : node' ∈ program.nodes)
    (hid : node.nodeId = node'.nodeId) : node = node' :=
  List.inj_on_of_nodup_map program.nodes_nodup h h' hid

lemma nodeById_eq_some : program.nodeById id = some node ↔ node ∈ program.nodes ∧ node.nodeId = id := by
  constructor
  · intro h
    exact ⟨List.mem_of_find?_eq_some h, by simpa using List.find?_some h⟩
  · rintro ⟨hmem, rfl⟩
    cases hfind : program.nodeById node.nodeId with
    | none =>
      rw [nodeById, List.find?_eq_none] at hfind
      exact absurd (hfind node hmem) (by simp)
    | some other =>
      have hother : other ∈ program.nodes := List.mem_of_find?_eq_some hfind
      have hid : other.nodeId = node.nodeId := by simpa using List.find?_some hfind
      rw [eq_of_nodeId hother hmem hid]

lemma relationships (h : node ∈ program.nodes) :
    (∀ dependency ∈ node.dependsOn, dependency ∈ program.nodes.map ProgramNode.nodeId) ∧
      (∀ id ∈ referencedNodeIds node, id ∈ node.dependsOn) ∧
        ∀ target ∈ node.body.targets,
          validateBranchTarget program.nodes node.nodeId target = .ok () := by
  have hnode := program.graph_parts.2.1 node h
  simp only [validateNodeRelationships, validateDeclaredDependencies, validateDeclaredReferences,
    bind_eq_ok, require_eq_ok, Unique.exists_iff] at hnode
  obtain ⟨hknown, hdeclared, us, hus, -⟩ := hnode
  refine ⟨hknown, hdeclared, fun target htarget => ?_⟩
  obtain ⟨u, hu⟩ := exists_of_mapM_eq_ok hus target htarget
  exact hu

lemma operation_resolved {operationId : NonEmptyStr} (h : node ∈ program.nodes)
    (hoperation : node.body.operationId? = some operationId) :
    ∃ reference ∈ program.operationRefs, reference.operationId = operationId := by
  have hrefs := program.valid_parts.2.2
  rw [validateOperationRefs, require_eq_ok] at hrefs
  exact List.mem_map.mp (hrefs.2.2 operationId (List.mem_filterMap.mpr ⟨node, h, hoperation⟩))

/-! ### The order of the nodes -/

variable (program) in
lemma order_parts :
    program.topologicalOrder.Nodup ∧
      (∀ id, id ∈ program.topologicalOrder ↔ id ∈ program.nodes.map ProgramNode.nodeId) ∧
        ∀ node ∈ program.nodes, misplaced program.topologicalOrder node = [] := by
  have h := program.valid_parts.2.1
  simp only [validateTopologicalOrder, bind_eq_ok, require_eq_ok, Unique.exists_iff] at h
  obtain ⟨⟨hnodup, hsub, hall⟩, us, hus, -⟩ := h
  refine ⟨hnodup, fun id => ⟨hsub id, fun hid => ?_⟩, fun node hnode => ?_⟩
  · obtain ⟨node, hnode, rfl⟩ := List.mem_map.mp hid
    exact hall node hnode
  · obtain ⟨u, hu⟩ := exists_of_mapM_eq_ok hus node hnode
    exact require_eq_ok.mp hu

/-- **A dependency of a node comes before it.** -/
theorem dependency_before (h : node ∈ program.nodes) {before after : List NonEmptyStr}
    (horder : program.topologicalOrder = before ++ node.nodeId :: after)
    (hid : id ∈ node.dependsOn) : id ∈ before := by
  obtain ⟨hnodup, hmem, hplaced⟩ := program.order_parts
  have hle : ¬ program.topologicalOrder.idxOf node.nodeId < program.topologicalOrder.idxOf id := by
    have hnot := List.filter_eq_nil_iff.mp (hplaced node h) id hid
    simpa using hnot
  have hin : id ∈ program.topologicalOrder := (hmem id).mpr ((relationships h).1 id hid)
  have hne : id ≠ node.nodeId := fun heq => node.not_self (heq ▸ hid)
  rw [horder] at hle hin hnodup
  by_contra hbefore
  have hnode : node.nodeId ∉ before := fun hmem =>
    (List.nodup_append.mp hnodup).2.2 _ hmem _ List.mem_cons_self rfl
  rw [List.idxOf_append_of_notMem hnode, List.idxOf_append_of_notMem hbefore,
    List.idxOf_cons_self, List.idxOf_cons_ne _ hne.symm] at hle
  omega

/-- **A node that is no stop comes before another node.** -/
theorem exists_after (h : node ∈ program.nodes) (hkind : node.body.kind ≠ .stop)
    {before after : List NonEmptyStr}
    (horder : program.topologicalOrder = before ++ node.nodeId :: after) : after ≠ [] := by
  have hterminals := program.graph_parts.2.2.1
  rw [validateTerminals, require_eq_ok] at hterminals
  have hdependents := (hterminals node h).resolve_right hkind
  obtain ⟨dependent, hmem, hdependency⟩ := List.mem_flatMap.mp hdependents
  rintro rfl
  have hin : dependent.nodeId ∈ program.topologicalOrder :=
    (program.order_parts.2.1 _).mpr (List.mem_map_of_mem hmem)
  obtain ⟨before', after', horder'⟩ := List.append_of_mem hin
  have hbefore := dependency_before hmem horder' hdependency
  rw [horder'] at horder
  have hnodup := program.order_parts.1
  rw [horder'] at hnodup
  -- The node is the last one, and its dependent comes after it.
  have hlast := congrArg List.getLast? horder
  have hafter : node.nodeId ∈ dependent.nodeId :: after' := by
    have hne : (dependent.nodeId :: after').getLast? = some node.nodeId := by
      simpa using hlast
    exact List.mem_of_getLast? hne
  exact (List.nodup_append.mp hnodup).2.2 _ hbefore _ hafter rfl

end CompiledExecutionProgram

end AecBench.Contracts
