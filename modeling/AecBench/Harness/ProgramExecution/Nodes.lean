import AecBench.Harness.ProgramExecution.Fanouts

/-!
# What the execution of a node does

A node first prepares, from what the executor knows, one of three tasks: an outcome that needs no
operation, one invocation, or a fan-out. Only the last two use the budget of the run.

## Main definitions

* `Task`, `task` — what a node has to do; `runTask` — doing it.
* `NodeRun` — the steps of a node that is executed, and its outcome.
* `Visits` — the nodes that are visited one after the other.

## Main results

* `executeBody_eq` — a node does its task.
* `executeNode_runs` — the runs of a node.
* `visitAll_runs` — the runs of the walk.
-/

namespace AecBench.ProgramExecution

open AecBench.Contracts
open Program (Ends Follows Runs Step leaf runs_bind runs_leaf runs_perform runs_result tally
  tally_cons tally_nil)
open Text (NonEmptyStr)
open Validation

/-! ## Tasks -/

/-- What a node has to do: nothing more than an outcome, announced or not; one invocation; or the
items of a fan-out. -/
inductive Task
  | settle (announced : Bool) (outcome : Except Raised ExecutedNode)
  | operation (prepared : Prepared)
  | fanout (n : FanoutNode) (prepared : PreparedFanout)

section Tasks

variable (digest : Json → String) (program : CompiledExecutionProgram)
  (registry : OperationRegistry) (walk : Walk) (node : ProgramNode)

def operationTask : Except Raised Prepared → Task
  | .ok p => .operation p
  | .error e => .settle true (.error e)

def fanoutTask (n : FanoutNode) : Except Raised PreparedFanout → Task
  | .ok p => .fanout n p
  | .error e => .settle true (.error e)

/-- A join that is not ready. -/
def joinRefused (message : String) : ExecutedNode where
  evidence := failedEvidence node (joinNotReady node message)

def joinTask (n : JoinNode) : Task :=
  match availableSources walk n with
  | .error e => .settle false (.error e)
  | .ok available =>
    if n.strategy = .all ∧ available.length ≠ n.sources.length then
      .settle false (.ok (joinRefused node " requires all sources to succeed"))
    else if available = [] then
      .settle false (.ok (joinRefused node " has no successful sources"))
    else .settle true (.ok (joined digest node n available))

def task : Task :=
  match node.body with
  | .action n => operationTask (prepareAction digest program registry walk node n)
  | .fanout n => fanoutTask n (prepareFanout digest program registry walk node n)
  | .join n => joinTask digest walk node n
  | .branch n => .settle true (branched digest walk node n)
  | .verify n => operationTask (prepareVerify digest program registry walk node n)
  | .stop n => .settle true (stopped digest walk node n)

/-- Invoke an operation once. -/
def runOperation (p : Prepared) : Method ExecutedNode :=
  invoke digest program.ref p.invocation >>= fun invocation =>
    .done (executedOperationNode node p.invocation.registration p.bindings invocation)

/-- Run the items of a fan-out. -/
def runFanout (n : FanoutNode) (p : PreparedFanout) : Method ExecutedNode :=
  call (.openQueue node.nodeId p.items.length) >>= fun _ =>
    runItems digest program node n p >>= fun results =>
      leaf ((List.range p.items.length).mapM (futureResult results)) >>= fun invocations =>
        leaf (fanoutOutcome node p invocations)

def runTask : Task → Method ExecutedNode
  | .settle false outcome => leaf outcome
  | .settle true outcome => start walk node >>= fun _ => leaf outcome
  | .operation p => start walk node >>= fun _ => runOperation digest program node p
  | .fanout n p => start walk node >>= fun _ => runFanout digest program node n p

/-- **A node does its task.** -/
theorem executeBody_eq :
    executeBody digest program registry walk node =
      runTask digest program walk node (task digest program registry walk node) := by
  have hoperation : ∀ prepared, executeOperation digest program walk node prepared =
      runTask digest program walk node (operationTask prepared) := by
    intro prepared
    cases prepared <;> rfl
  rw [executeBody, task]
  cases node.body with
  | action n => exact hoperation _
  | fanout n =>
    change executeFanout digest program registry walk node n =
      runTask digest program walk node
        (fanoutTask n (prepareFanout digest program registry walk node n))
    rw [executeFanout]
    cases prepareFanout digest program registry walk node n <;> rfl
  | join n =>
    change executeJoin digest walk node n =
      runTask digest program walk node (joinTask digest walk node n)
    rw [executeJoin, joinTask]
    cases availableSources walk n with
    | error e => rfl
    | ok available =>
      simp only [leaf, Program.bind_done]
      by_cases hall : n.strategy = .all ∧ available.length ≠ n.sources.length
      · rw [if_pos hall, if_pos hall]
        rfl
      · rw [if_neg hall, if_neg hall]
        by_cases hnone : available = []
        · rw [if_pos hnone, if_pos hnone]
          rfl
        · rw [if_neg hnone, if_neg hnone]
          rfl
  | branch n => rfl
  | verify n => exact hoperation _
  | stop n => rfl

end Tasks

/-! ## Faults of preparations -/

/-- Everything that can be raised is a fault of the runtime. -/
def Faults {α : Type} (x : Except Raised α) : Prop := ∀ e, x = .error e → ∃ f, e = .fault f

section Faults

variable {α β : Type}

lemma faults_ok (a : α) : Faults (.ok a : Except Raised α) := fun _ h => by cases h

lemma faults_fault (f : RuntimeFault) : Faults (.error (.fault f) : Except Raised α) := by
  intro e h
  cases h
  exact ⟨f, rfl⟩

lemma Faults.bind {x : Except Raised α} {g : α → Except Raised β} (hx : Faults x)
    (hg : ∀ a, Faults (g a)) : Faults (x >>= g) := by
  cases x with
  | error e =>
    intro e' h
    cases h
    exact hx e rfl
  | ok a => exact hg a

lemma Faults.map {x : Except Raised α} (hx : Faults x) (g : α → β) : Faults (x.map g) := by
  cases x with
  | error e =>
    intro e' h
    cases h
    exact hx e rfl
  | ok a => exact faults_ok _

lemma faults_mapM {g : α → Except Raised β} (h : ∀ a, Faults (g a)) (as : List α) :
    Faults (as.mapM g) := by
  induction as with
  | nil => exact faults_ok _
  | cons a as ih =>
    rw [List.mapM_cons]
    exact (h a).bind fun b => ih.bind fun bs => faults_ok _

lemma faults_require (c : Prop) [Decidable c] (f : RuntimeFault) :
    Faults (require c (.fault f) : Except Raised Unit) := by
  rw [require]
  by_cases hc : c
  · rw [if_pos hc]
    exact faults_ok _
  · rw [if_neg hc]
    exact faults_fault f

end Faults

section Preparations

variable {digest : Json → String} {program : CompiledExecutionProgram}
  {registry : OperationRegistry} {walk : Walk} {node : ProgramNode}

lemma faults_resolveOutput (reference : ProgramOutputRef) : Faults (resolveOutput walk reference) := by
  rw [resolveOutput]
  cases (walk.outputs reference.nodeId).bind (·.lookup reference.outputPort.val) with
  | none => exact faults_fault _
  | some value => exact faults_ok _

lemma faults_bindArguments (arguments : List ProgramArgument) :
    Faults (bindArguments digest walk arguments) := by
  refine (faults_mapM (fun argument => ?_) arguments).map _
  rw [bindArgument]
  cases argument.value with
  | literal value => exact faults_ok _
  | output ref => exact (faults_resolveOutput ref).map _

variable (h : node ∈ program.nodes)
include h

lemma faults_resolveRegistration {operationId : NonEmptyStr}
    (hoperation : node.body.operationId? = some operationId) :
    Faults (resolveRegistration program registry operationId) := by
  obtain ⟨reference, hmem, rfl⟩ := CompiledExecutionProgram.operation_resolved h hoperation
  rw [resolveRegistration]
  cases hfind : program.operationRefs.find? fun r => r.operationId = reference.operationId with
  | none => exact absurd (List.find?_eq_none.mp hfind reference hmem) (by simp)
  | some found =>
    cases registry.registration reference.operationId with
    | none => exact faults_fault _
    | some registration =>
      dsimp only
      by_cases hresolve : registry.resolve found = none
      · rw [if_pos hresolve]
        exact faults_fault _
      · rw [if_neg hresolve]
        exact faults_ok _

lemma faults_prepareAction {n : ActionNode} (hn : node.body = .action n) :
    Faults (prepareAction digest program registry walk node n) :=
  (faults_bindArguments _).bind fun _ =>
    (faults_resolveRegistration h (by rw [hn]; rfl)).bind fun _ => faults_ok _

lemma faults_prepareVerify {n : VerifyNode} (hn : node.body = .verify n) :
    Faults (prepareVerify digest program registry walk node n) :=
  (faults_bindArguments _).bind fun _ => (faults_require _ _).bind fun _ =>
    (faults_resolveOutput _).bind fun _ =>
      (faults_resolveRegistration h (by rw [hn]; rfl)).bind fun _ => faults_ok _

lemma faults_prepareFanout {n : FanoutNode} (hn : node.body = .fanout n) :
    Faults (prepareFanout digest program registry walk node n) := by
  refine (faults_bindArguments _).bind fun _ => (faults_require _ _).bind fun _ =>
    (faults_resolveOutput _).bind fun value => Faults.bind ?_ fun _ =>
      (faults_resolveRegistration h (by rw [hn]; rfl)).bind fun _ => faults_ok _
  cases value with
  | array items => exact faults_ok _
  | _ => exact faults_fault _

omit h

lemma faults_branched (n : BranchNode) : Faults (branched digest walk node n) := by
  refine (faults_resolveOutput _).bind fun value => Faults.bind ?_ fun _ => faults_ok _
  rw [evaluateBranch]
  cases compareValues value n.condition.operator n.condition.expected with
  | none => exact faults_fault _
  | some answer => exact faults_ok _

lemma faults_stopped (n : StopNode) : Faults (stopped digest walk node n) := by
  rw [stopped]
  cases n.result with
  | none => exact faults_ok _
  | some reference => exact (faults_resolveOutput reference).map _

lemma faults_availableSources (n : JoinNode) : Faults (availableSources walk n) :=
  faults_mapM (fun _ => (faults_resolveOutput _).map _) _

/-! ## What tasks are about -/

/-- The evidence is about the node. -/
structure Named (node : ProgramNode) (evidence : NodeExecutionEvidence) : Prop where
  nodeId : evidence.nodeId = node.nodeId
  kind : evidence.kind = node.body.kind
  dependencies : evidence.dependencyNodeIds = node.dependsOn

/-- A branch that succeeds selects one of its targets. -/
def Selects (node : ProgramNode) (evidence : NodeExecutionEvidence) : Prop :=
  node.body.kind = .branch → evidence.status = .succeeded →
    ∃ selected ∈ node.body.targets, evidence.selectedSuccessorNodeId = some selected

/-- An outcome that needs no operation. -/
structure Settled (node : ProgramNode) (x : ExecutedNode) : Prop where
  named : Named node x.evidence
  attempts : x.evidence.attempts = []
  fatal : x.fatal = false
  not_skipped : x.evidence.status ≠ .skipped
  selects : Selects node x.evidence

lemma settled_succeeded (bindings : List InputBindingLineage) (outputs : JsonObject)
    {selected : Option NonEmptyStr}
    (hselected : node.body.kind = .branch → ∃ s ∈ node.body.targets, selected = some s) :
    Settled node { evidence := succeededEvidence node bindings outputs selected } where
  named := ⟨rfl, rfl, rfl⟩
  attempts := rfl
  fatal := rfl
  not_skipped := by simp [succeededEvidence]
  selects := fun hkind _ => hselected hkind

lemma settled_joinRefused (message : String) : Settled node (joinRefused node message) where
  named := ⟨rfl, rfl, rfl⟩
  attempts := rfl
  fatal := rfl
  not_skipped := by simp [joinRefused, failedEvidence]
  selects := by
    intro _ hstatus
    simp [joinRefused, failedEvidence] at hstatus

/-- What an outcome without operations can be. -/
def Outcome (node : ProgramNode) (r : Except Raised ExecutedNode) : Prop :=
  Faults r ∧ ∀ x, r = .ok x → Settled node x

lemma outcome_error {e : Raised} (h : ∃ f, e = .fault f) : Outcome node (.error e) := by
  obtain ⟨f, rfl⟩ := h
  exact ⟨faults_fault f, fun x hx => by cases hx⟩

lemma outcome_ok {x : ExecutedNode} (h : Settled node x) : Outcome node (.ok x) := by
  refine ⟨faults_ok x, fun x' hx => ?_⟩
  cases hx
  exact h

/-- What holds of the task of a node. -/
def Task.Fits (node : ProgramNode) : Task → Prop
  | .settle _ outcome => Outcome node outcome
  | .operation p => p.invocation.nodeId = node.nodeId ∧ p.invocation.retry = node.body.retry? ∧
      p.invocation.fanoutIndex = none ∧ (node.body.kind = .action ∨ node.body.kind = .verify)
  | .fanout n _ => node.body = .fanout n

lemma operationTask_fits {prepared : Except Raised Prepared} (hfaults : Faults prepared)
    (hok : ∀ p, prepared = .ok p → Task.Fits node (.operation p)) :
    (operationTask prepared).Fits node := by
  cases prepared with
  | error e => exact outcome_error (hfaults e rfl)
  | ok p => exact hok p rfl

lemma prepareAction_fits {n : ActionNode} (hn : node.body = .action n) {p : Prepared}
    (hp : prepareAction digest program registry walk node n = .ok p) :
    Task.Fits node (.operation p) := by
  simp only [prepareAction, bind_eq_ok] at hp
  obtain ⟨a, -, registration, -, hp⟩ := hp
  cases hp
  refine ⟨rfl, ?_, rfl, .inl ?_⟩
  · rw [hn]; rfl
  · rw [hn]; rfl

lemma prepareVerify_fits {n : VerifyNode} (hn : node.body = .verify n) {p : Prepared}
    (hp : prepareVerify digest program registry walk node n = .ok p) :
    Task.Fits node (.operation p) := by
  simp only [prepareVerify, bind_eq_ok] at hp
  obtain ⟨a, -, u, -, subject, -, registration, -, hp⟩ := hp
  cases hp
  refine ⟨rfl, ?_, rfl, .inr ?_⟩
  · rw [hn]; rfl
  · rw [hn]; rfl

lemma branched_outcome {n : BranchNode} (hn : node.body = .branch n) :
    Outcome node (branched digest walk node n) := by
  refine ⟨faults_branched n, fun x hx => ?_⟩
  simp only [branched, bind_eq_ok] at hx
  obtain ⟨value, -, answer, -, hx⟩ := hx
  cases hx
  refine settled_succeeded _ _ fun _ => ⟨_, ?_, rfl⟩
  rw [hn]
  cases answer <;> simp [ProgramNodeBody.targets]

lemma stopped_outcome {n : StopNode} (hn : node.body = .stop n) :
    Outcome node (stopped digest walk node n) := by
  have hkind : node.body.kind ≠ .branch := by rw [hn]; simp [ProgramNodeBody.kind]
  refine ⟨faults_stopped n, fun x hx => ?_⟩
  rw [stopped] at hx
  cases hresult : n.result with
  | none =>
    rw [hresult] at hx
    cases hx
    exact settled_succeeded _ _ fun h => absurd h hkind
  | some reference =>
    rw [hresult] at hx
    cases hvalue : resolveOutput walk reference with
    | error e => simp only [hvalue] at hx; cases hx
    | ok value =>
      simp only [hvalue] at hx
      cases hx
      exact settled_succeeded _ _ fun h => absurd h hkind

lemma joinTask_fits {n : JoinNode} (hn : node.body = .join n) :
    (joinTask digest walk node n).Fits node := by
  have hkind : node.body.kind ≠ .branch := by rw [hn]; simp [ProgramNodeBody.kind]
  rw [joinTask]
  cases havailable : availableSources walk n with
  | error e => exact outcome_error (faults_availableSources n e havailable)
  | ok available =>
    dsimp only
    by_cases hall : n.strategy = .all ∧ available.length ≠ n.sources.length
    · rw [if_pos hall]
      exact outcome_ok (settled_joinRefused _)
    · rw [if_neg hall]
      by_cases hnone : available = []
      · rw [if_pos hnone]
        exact outcome_ok (settled_joinRefused _)
      · rw [if_neg hnone]
        exact outcome_ok (settled_succeeded _ _ fun h => absurd h hkind)

/-- **The task of a node fits the node.** -/
theorem task_fits (h : node ∈ program.nodes) : (task digest program registry walk node).Fits node := by
  rw [task]
  cases hn : node.body with
  | action n =>
    exact operationTask_fits (faults_prepareAction h hn) fun p hp => prepareAction_fits hn hp
  | fanout n =>
    dsimp only
    cases hprepared : prepareFanout digest program registry walk node n with
    | error e => exact outcome_error (faults_prepareFanout h hn e hprepared)
    | ok p => exact hn
  | join n => exact joinTask_fits hn
  | branch n => exact branched_outcome hn
  | verify n =>
    exact operationTask_fits (faults_prepareVerify h hn) fun p hp => prepareVerify_fits hn hp
  | stop n => exact stopped_outcome hn

end Preparations

/-! ## Runs of tasks -/

section Runs

variable {digest : Json → String} {program : CompiledExecutionProgram}
  {registry : OperationRegistry} {limits : ProgramLimits} {walk : Walk} {node : ProgramNode}
  {tr : List (Step Op Raised)} {w w' : World} {r : Except Raised ExecutedNode}

/-- The step that announces a node. -/
def announcement (walk : Walk) (node : ProgramNode) : Step Op Raised := ⟨.execute node walk, .ok ()⟩

/-- The step that opens the queue of a fan-out. -/
def opening (node : ProgramNode) (size : ℕ) : Step Op Raised :=
  ⟨.openQueue node.nodeId size, .ok ()⟩

/-- The state in which a fan-out of `size` items starts. -/
def World.opened (w : World) (size : ℕ) : World := { w with queue := { next := 0, size := size } }

lemma start_runs {α : Type} {f : Unit → Method α} {r : Except Raised α}
    (h : Runs (semantics limits) (start walk node >>= f) w tr r w') :
    ∃ t, tr = announcement walk node :: t ∧ Runs (semantics limits) (f ()) w t r w' := by
  rcases runs_bind.mp h with ⟨e, rfl, hstart⟩ | ⟨u, t, t', w₁, rfl, hstart, hrest⟩
  · obtain ⟨i, -, he, -⟩ := runs_perform.mp hstart
    cases he
  · obtain ⟨i, rfl, -, rfl⟩ := runs_perform.mp hstart
    exact ⟨t', rfl, hrest⟩

lemma runTask_settle {announced : Bool} {outcome : Except Raised ExecutedNode}
    (h : Runs (semantics limits) (runTask digest program walk node (.settle announced outcome)) w
      tr r w') :
    r = outcome ∧ w' = w ∧ tr = if announced then [announcement walk node] else [] := by
  cases announced with
  | false =>
    obtain ⟨rfl, rfl, rfl⟩ := runs_leaf.mp h
    exact ⟨rfl, rfl, rfl⟩
  | true =>
    obtain ⟨t, rfl, hrest⟩ := start_runs h
    obtain ⟨rfl, rfl, rfl⟩ := runs_leaf.mp hrest
    exact ⟨rfl, rfl, rfl⟩

lemma runTask_operation {p : Prepared}
    (h : Runs (semantics limits) (runTask digest program walk node (.operation p)) w tr r w') :
    ∃ t r₀, tr = announcement walk node :: t ∧
      Runs (semantics limits) (invoke digest program.ref p.invocation) w t r₀ w' ∧
        r = r₀.map (executedOperationNode node p.invocation.registration p.bindings) := by
  obtain ⟨t, rfl, hrest⟩ := start_runs h
  rcases runs_bind.mp hrest with ⟨e, rfl, hinvoke⟩ | ⟨x, t, t', w₁, rfl, hinvoke, hdone⟩
  · exact ⟨t, .error e, rfl, hinvoke, rfl⟩
  · obtain ⟨rfl, rfl, rfl⟩ := (runs_leaf (x := .ok _)).mp hdone
    exact ⟨t, .ok x, by rw [List.append_nil], hinvoke, rfl⟩

/-- The outcome of a fan-out from the results of its items: the first that raised, or the
evidence. -/
def itemsOutcome (node : ProgramNode) (p : PreparedFanout)
    (results : List (Except Raised InvocationResult)) : Except Raised ExecutedNode :=
  results.mapM id >>= fanoutOutcome node p

lemma runTask_fanout {n : FanoutNode} {p : PreparedFanout}
    (h : Runs (semantics limits) (runTask digest program walk node (.fanout n p)) w tr r w') :
    ∃ t items, tr = announcement walk node :: opening node p.items.length :: t ∧
      Follows (semantics limits) t (w.opened p.items.length) w' ∧
        ItemRuns limits digest program node n p t items ∧
          r = itemsOutcome node p (items.map Prod.snd) := by
  obtain ⟨t, rfl, hrest⟩ := start_runs h
  rcases runs_bind.mp hrest with ⟨e, rfl, hopen⟩ | ⟨u, t₁, t₂, w₁, rfl, hopen, hpool⟩
  · obtain ⟨i, -, he, -⟩ := runs_perform.mp hopen
    cases he
  obtain ⟨i, rfl, -, rfl⟩ := runs_perform.mp hopen
  rcases runs_bind.mp hpool with ⟨e, rfl, hitems⟩ | ⟨finished, t₁, t₃, w₁, rfl, hitems, hleaf⟩
  · obtain ⟨finished, items, he, -⟩ := runItems_runs hitems rfl
    cases he
  · have hfollows := hitems.2
    obtain ⟨finished', items, hfinished, hruns, hresults⟩ := runItems_runs hitems rfl
    cases hfinished
    have houtcome : r = itemsOutcome node p (items.map Prod.snd) ∧ t₃ = [] ∧ w' = w₁ := by
      have hmapM : (List.range p.items.length).mapM (futureResult finished) =
          (items.map Prod.snd).mapM id := by
        rw [← hresults, List.mapM_map]
        rfl
      rw [hmapM] at hleaf
      rw [itemsOutcome]
      cases hall : (items.map Prod.snd).mapM id with
      | error e =>
        rw [hall] at hleaf
        obtain ⟨rfl, rfl, rfl⟩ := (runs_leaf (x := .error e)).mp hleaf
        exact ⟨rfl, rfl, rfl⟩
      | ok invocations =>
        rw [hall] at hleaf
        obtain ⟨rfl, rfl, rfl⟩ := runs_leaf.mp hleaf
        exact ⟨rfl, rfl, rfl⟩
    obtain ⟨rfl, rfl, rfl⟩ := houtcome
    exact ⟨t₁, items, by rw [List.append_nil]; rfl, hfollows, hruns, rfl⟩

/-- The outcome of a node that raises a fault. -/
def faulted (node : ProgramNode) (f : RuntimeFault) : ExecutedNode where
  evidence := failedEvidence node f
  fatal := true

/-- The outcome of a node after its faults are caught. -/
def caught (node : ProgramNode) : Except Raised ExecutedNode → Except Raised ExecutedNode
  | .ok executed => .ok executed
  | .error (.fault f) => .ok (faulted node f)
  | .error e => .error e

lemma caught_eq_ok {r : Except Raised ExecutedNode} {x : ExecutedNode} :
    caught node r = .ok x ↔ r = .ok x ∨ ∃ f, r = .error (.fault f) ∧ x = faulted node f := by
  rcases r with (f | errors | - | key) | y
  · simp [caught, eq_comm]
  · simp [caught]
  · simp [caught]
  · simp [caught]
  · simp [caught]

/-- **The runs of a node** are those of its task, with its faults caught. -/
theorem executeNode_runs
    (h : Runs (semantics limits) (executeNode digest program registry walk node) w tr r w') :
    ∃ r₀, r = caught node r₀ ∧
      Runs (semantics limits)
        (runTask digest program walk node (task digest program registry walk node)) w tr r₀ w' := by
  rw [executeNode, executeBody_eq] at h
  rcases runs_bind.mp h with ⟨e, rfl, hbody⟩ | ⟨r₀, t, t', w₁, rfl, hbody, hcatch⟩
  · obtain ⟨r', he, -⟩ := runs_result.mp hbody
    cases he
  · obtain ⟨r', hr', htask⟩ := runs_result.mp hbody
    cases hr'
    refine ⟨r₀, ?_⟩
    rcases r₀ with (f | errors | - | key) | x
    · obtain ⟨rfl, rfl, rfl⟩ := (runs_leaf (x := .ok _)).mp hcatch
      exact ⟨rfl, by rwa [List.append_nil]⟩
    · obtain ⟨rfl, rfl, rfl⟩ := (runs_leaf (x := .error _)).mp hcatch
      exact ⟨rfl, by rwa [List.append_nil]⟩
    · obtain ⟨rfl, rfl, rfl⟩ := (runs_leaf (x := .error _)).mp hcatch
      exact ⟨rfl, by rwa [List.append_nil]⟩
    · obtain ⟨rfl, rfl, rfl⟩ := (runs_leaf (x := .error _)).mp hcatch
      exact ⟨rfl, by rwa [List.append_nil]⟩
    · obtain ⟨rfl, rfl, rfl⟩ := (runs_leaf (x := .ok _)).mp hcatch
      exact ⟨rfl, by rwa [List.append_nil]⟩

/-! ## Visits -/

/-- **The visit of a node** skips it, or does its task. -/
theorem visitNode_runs
    (h : Runs (semantics limits) (visitNode digest program registry walk node) w tr r w') :
    (∃ code, r = .ok { evidence := skippedEvidence node code } ∧ tr = [] ∧ w' = w ∧
      if walk.terminated then code = programAlreadyTerminated
      else activationError program walk node = some code) ∨
    walk.terminated = false ∧ activationError program walk node = none ∧
      ∃ r₀, r = caught node r₀ ∧
        Runs (semantics limits)
          (runTask digest program walk node (task digest program registry walk node)) w tr r₀ w' := by
  rw [visitNode] at h
  by_cases hterminated : walk.terminated = true
  · rw [if_pos hterminated] at h
    obtain ⟨rfl, rfl, rfl⟩ := (runs_leaf (x := .ok _)).mp h
    exact .inl ⟨_, rfl, rfl, rfl, by rw [if_pos hterminated]⟩
  · rw [if_neg hterminated] at h
    cases hactivation : activationError program walk node with
    | none =>
      rw [hactivation] at h
      exact .inr ⟨by simpa using hterminated, rfl, executeNode_runs h⟩
    | some code =>
      rw [hactivation] at h
      obtain ⟨rfl, rfl, rfl⟩ := (runs_leaf (x := .ok _)).mp h
      exact .inl ⟨code, rfl, rfl, rfl, by rw [if_neg hterminated]⟩

end Runs

/-- The visit of a node: what the executor knew before it, its steps, and its outcome. -/
structure Visit where
  walk : Walk
  node : ProgramNode
  trace : List (Step Op Raised)
  executed : ExecutedNode

/-- The nodes with the given ids are visited one after the other. -/
inductive Visits (digest : Json → String) (program : CompiledExecutionProgram)
    (registry : OperationRegistry) (limits : ProgramLimits) :
    List NonEmptyStr → Walk → World → List Visit → Walk → World → Prop
  | nil (walk w) : Visits digest program registry limits [] walk w [] walk w
  | cons {id rest walk walk₁ walk' w w₁ w' node t x visits}
      (hnode : program.nodeById id = some node)
      (hrun : Runs (semantics limits) (visitNode digest program registry walk node) w t (.ok x) w₁)
      (hrecord : record walk node x = .ok walk₁)
      (hrest : Visits digest program registry limits rest walk₁ w₁ visits walk' w') :
      Visits digest program registry limits (id :: rest) walk w (⟨walk, node, t, x⟩ :: visits)
        walk' w'

section Walks

variable {digest : Json → String} {program : CompiledExecutionProgram}
  {registry : OperationRegistry} {limits : ProgramLimits} {walk : Walk} {w w' : World}
  {tr : List (Step Op Raised)} {r : Except Raised Walk}

lemma visit_runs {id : NonEmptyStr}
    (h : Runs (semantics limits) (visit digest program registry walk id) w tr r w') :
    (program.nodeById id = none ∧ r = .error (.keyError id.val)) ∨
      ∃ node, program.nodeById id = some node ∧
        ((∃ e, r = .error e ∧
          Runs (semantics limits) (visitNode digest program registry walk node) w tr (.error e) w') ∨
        ∃ x, r = record walk node x ∧
          Runs (semantics limits) (visitNode digest program registry walk node) w tr (.ok x) w') := by
  rw [visit] at h
  cases hnode : program.nodeById id with
  | none =>
    rw [hnode] at h
    obtain ⟨-, rfl, -⟩ := (runs_leaf (x := .error _)).mp h
    exact .inl ⟨rfl, rfl⟩
  | some node =>
    rw [hnode] at h
    refine .inr ⟨node, rfl, ?_⟩
    rcases runs_bind.mp h with ⟨e, rfl, hvisit⟩ | ⟨x, t, t', w₁, rfl, hvisit, hrecord⟩
    · exact .inl ⟨e, rfl, hvisit⟩
    · obtain ⟨rfl, rfl, rfl⟩ := runs_leaf.mp hrecord
      exact .inr ⟨x, rfl, by rwa [List.append_nil]⟩

/-- **The runs of the walk**: all nodes are visited, or a visit raises. -/
theorem visitAll_runs {ids : List NonEmptyStr}
    (h : Runs (semantics limits) (visitAll digest program registry ids walk) w tr r w') :
    (∃ walk' visits, r = .ok walk' ∧ tr = visits.flatMap Visit.trace ∧
      Visits digest program registry limits ids walk w visits walk' w') ∨
    ∃ before id after visits walk₁ w₁ t e, ids = before ++ id :: after ∧
      Visits digest program registry limits before walk w visits walk₁ w₁ ∧
        tr = visits.flatMap Visit.trace ++ t ∧ r = .error e ∧
          Runs (semantics limits) (visit digest program registry walk₁ id) w₁ t (.error e) w' := by
  induction ids generalizing walk w tr with
  | nil =>
    obtain ⟨rfl, rfl, rfl⟩ := (runs_leaf (x := .ok walk)).mp h
    exact .inl ⟨walk, [], rfl, rfl, .nil walk _⟩
  | cons id rest ih =>
    rcases runs_bind.mp h with ⟨e, rfl, hvisit⟩ | ⟨walk₁, t, t', w₁, rfl, hvisit, hrest⟩
    · exact .inr ⟨[], id, rest, [], walk, w, tr, e, rfl, .nil walk w, rfl, rfl, hvisit⟩
    · obtain ⟨-, hr⟩ | ⟨node, hnode, ⟨e, hr, -⟩ | ⟨x, hrecord, hrun⟩⟩ := visit_runs hvisit
      · cases hr
      · cases hr
      · rcases ih hrest with ⟨walk', visits, rfl, rfl, hvisits⟩ |
          ⟨before, id', after, visits, walk₂, w₂, t'', e, rfl, hvisits, rfl, rfl, herror⟩
        · exact .inl ⟨walk', ⟨walk, node, t, x⟩ :: visits, rfl, rfl,
            .cons hnode hrun hrecord.symm hvisits⟩
        · exact .inr ⟨id :: before, id', after, ⟨walk, node, t, x⟩ :: visits, walk₂, w₂, t'', e, rfl,
            .cons hnode hrun hrecord.symm hvisits, by simp, rfl, herror⟩

end Walks

end AecBench.ProgramExecution
