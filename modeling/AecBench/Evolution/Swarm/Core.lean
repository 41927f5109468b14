import Mathlib.Data.Nat.Cast.Order.Ring
import AecBench.Evolution.Archive
import AecBench.Evolution.Evaluation

/-!
# The swarm reducer

The aggregate state of a swarm run, and the pure function that reduces the outcome of one
assignment into the next state and the decision about the agent.

## Main definitions

* `SwarmState` — the state of a run; `SwarmState.check` is what its constructor checks.
* `SwarmAssignment`, `SwarmAgentResult`, `SwarmOutcome` — what the reducer is given.
* `nextSwarmState` — the reducer.

## Main results

* `nextSwarmState_best` — the best candidate after a reduction is the best one before it or the
  accepted candidate of the outcome.
* `nextSwarmState_of_accepted` — an accepted candidate with a higher score becomes the best one.
-/

namespace AecBench.Evolution.Swarm

open Validation

/-! ## Configuration and budget -/

/-- The settings of a run that its manager reads. -/
structure SwarmConfig where
  maxCostUsd : ℚ
  evalBudgetUsd : ℚ
  windDownThreshold : ℚ := 8 / 10
  finalThreshold : ℚ := 95 / 100
  reflectEvery : ℕ := 1
  consolidateEvery : ℕ := 10
  pivotAfter : ℕ := 5
  nCentroids : ℕ := 512
  batchSize : ℕ := 1
  structuralWeight : ℚ := 3 / 10

structure BudgetSnapshot where
  maxCostUsd : ℚ
  totalAgentSpend : ℚ≥0
  evalBudgetUsd : ℚ
  evalSpend : ℚ≥0

/-- What the constructor of a budget snapshot checks; the spends are never negative. -/
def BudgetSnapshot.check (budget : BudgetSnapshot) : Except String Unit := do
  require (0 ≤ budget.maxCostUsd) "max_cost_usd must be a finite non-negative number"
  require (0 ≤ budget.evalBudgetUsd) "eval_budget_usd must be a finite non-negative number"

/-- One of the shared budgets is used up. -/
def BudgetSnapshot.exhausted (budget : BudgetSnapshot) : Bool :=
  budget.maxCostUsd ≤ (budget.totalAgentSpend : ℚ) ∨ budget.evalBudgetUsd ≤ (budget.evalSpend : ℚ)

/-! ## Agents -/

inductive AgentStatus
  | active
  | pivoting
  | windingDown
  | retired
  | error
  | restarting
  deriving DecidableEq

structure SwarmAgentState where
  agentId : String
  model : String
  status : AgentStatus
  currentBdFocus : Option BehaviourDescriptor := none
  evalCount : ℕ := 0
  bestScore : ℚ := 0
  budgetConsumedUsd : ℚ≥0 := 0
  restartCount : ℕ := 0
  lastEvaluatedAt : String := ""
  consecutiveNonImproving : ℕ := 0
  worktreeBranch : String

def SwarmAgentState.errors (agent : SwarmAgentState) : Errors :=
  record
    [("agent_id", nonEmptyStr agent.agentId), ("model", nonEmptyStr agent.model),
      ("worktree_branch", nonEmptyStr agent.worktreeBranch)]
    (.ok ())

lemma SwarmAgentState.errors_eq_nil {agent : SwarmAgentState} :
    agent.errors = [] ↔
      ¬ Text.Blank agent.agentId ∧ ¬ Text.Blank agent.model ∧
        ¬ Text.Blank agent.worktreeBranch := by
  simp [errors, record_eq_nil]

structure AgentPivotState where
  agentId : String
  cooldownRemaining : ℕ := 0
  pivotCount : ℕ := 0

def AgentPivotState.check (pivot : AgentPivotState) : Except String Unit :=
  requireText pivot.agentId "pivot agent_id"

structure PivotState where
  agentStates : List AgentPivotState := []

/-- What the constructors of a pivot state and of its counters check. -/
def PivotState.check (pivots : PivotState) : Except String Unit := do
  let _ ← pivots.agentStates.mapM AgentPivotState.check
  require (pivots.agentStates.map (·.agentId)).Nodup
    "pivot agent states must have unique agent IDs"

variable {pivots : PivotState}

lemma PivotState.check_eq_ok :
    pivots.check = .ok () ↔
      (∀ pivot ∈ pivots.agentStates, ¬ Text.Blank pivot.agentId) ∧
        (pivots.agentStates.map (·.agentId)).Nodup := by
  have hall : (∃ us, pivots.agentStates.mapM AgentPivotState.check = .ok us) ↔
      ∀ pivot ∈ pivots.agentStates, ¬ Text.Blank pivot.agentId := exists_mapM_require_eq_ok
  simp only [check, bind_eq_ok, require_eq_ok, exists_and_right, hall]

/-! ## The state of a run -/

structure SwarmState where
  runId : String
  totalEvaluations : ℕ
  bestCandidateId : Option String
  bestScore : Option ℚ
  agentStates : List SwarmAgentState
  recentScores : List ℚ
  recentDescriptors : List BehaviourDescriptor
  pivotState : PivotState
  stopped : Bool
  stopReason : Option String

/-- A stopped state has a reason, and no other does. -/
def checkStop (stopped : Bool) (stopReason : Option String) : Except String Unit :=
  if stopped then
    stopReason.elim (.error "stopped swarm state requires a stop_reason") fun reason =>
      requireText reason "stop_reason"
  else require (stopReason = none) "running swarm state must not have a stop_reason"

/-- What the constructor of a swarm state checks. -/
def SwarmState.check (state : SwarmState) : Except String Unit := do
  requireText state.runId "run_id"
  state.bestCandidateId.elim (.ok ()) fun id => requireText id "best_candidate_id"
  require (state.bestCandidateId.isSome = state.bestScore.isSome)
    "best_candidate_id and best_score must be provided together"
  checkStop state.stopped state.stopReason
  require (state.agentStates.map (·.agentId)).Nodup "swarm agent states must have unique agent IDs"
  require (∀ pivot ∈ state.pivotState.agentStates,
      pivot.agentId ∈ state.agentStates.map (·.agentId))
    "pivot state agent IDs must belong to swarm agent state IDs"
  require (∀ bd ∈ state.recentDescriptors, 0 ≤ bd.tokenCost)
    "behaviour descriptor token_cost must be a finite non-negative number"

/-- The stop reason of a state, and whether it stopped, agree. -/
def stopAgrees (stopped : Bool) (stopReason : Option String) : Prop :=
  if stopped then ∃ reason, stopReason = some reason ∧ ¬ Text.Blank reason else stopReason = none

/-- What a checked state satisfies. -/
structure SwarmState.Valid (state : SwarmState) : Prop where
  runId : ¬ Text.Blank state.runId
  bestId : ∀ id ∈ state.bestCandidateId, ¬ Text.Blank id
  bestTogether : state.bestCandidateId.isSome = state.bestScore.isSome
  stop : stopAgrees state.stopped state.stopReason
  agentIds : (state.agentStates.map (·.agentId)).Nodup
  pivotIds : ∀ pivot ∈ state.pivotState.agentStates,
    pivot.agentId ∈ state.agentStates.map (·.agentId)
  descriptors : ∀ bd ∈ state.recentDescriptors, 0 ≤ bd.tokenCost

lemma optional_requireText_eq_ok {value : Option String} {name : String} :
    (value.elim (.ok ()) fun text => requireText text name) = .ok () ↔
      ∀ text ∈ value, ¬ Text.Blank text := by
  cases value <;> simp

lemma checkStop_eq_ok {stopped : Bool} {stopReason : Option String} :
    checkStop stopped stopReason = .ok () ↔ stopAgrees stopped stopReason := by
  by_cases hs : stopped = true
  · rw [checkStop, stopAgrees, if_pos hs, if_pos hs]
    cases stopReason <;> simp
  · rw [checkStop, stopAgrees, if_neg hs, if_neg hs, require_eq_ok]

lemma SwarmState.check_eq_ok {state : SwarmState} : state.check = .ok () ↔ state.Valid := by
  simp only [check, unit_bind_eq_ok, requireText_eq_ok, optional_requireText_eq_ok,
    require_eq_ok, checkStop_eq_ok]
  constructor
  all_goals
    rintro ⟨h1, h2, h3, h4, h5, h6, h7⟩
    exact ⟨h1, h2, h3, h4, h5, h6, h7⟩

/-! ## Assignments, results and outcomes -/

structure SwarmAssignment where
  runId : String
  assignmentId : String
  agentId : String
  selection : SelectionPlan
  parent : WorkspaceSnapshot
  inspirations : List WorkspaceSnapshot
  maxCostUsd : ℚ≥0
  issuedAt : String
  deriving DecidableEq

/-- What the constructor of an assignment checks. -/
def SwarmAssignment.check (assignment : SwarmAssignment) : Except String Unit := do
  requireText assignment.runId "run_id"
  requireText assignment.assignmentId "assignment_id"
  requireText assignment.agentId "agent_id"
  require (assignment.parent.candidateId = assignment.selection.parentCandidateId)
    "assignment parent must match the selection parent_candidate_id"
  require (assignment.inspirations.map (·.candidateId) =
      assignment.selection.inspirationCandidateIds)
    "assignment inspirations must match the selection candidate IDs exactly"

structure SwarmAgentResult where
  agentId : String
  assignmentId : String
  proposal : CandidateProposal
  agentUsage : ProposalUsage

/-- What the constructor of a result checks. -/
def SwarmAgentResult.check (result : SwarmAgentResult) : Except String Unit := do
  requireText result.agentId "agent_id"
  requireText result.assignmentId "assignment_id"

structure ArchiveBatchOutcome where
  candidateId : String
  insertions : List ArchiveInsertionResult

def ArchiveBatchOutcome.check (outcome : ArchiveBatchOutcome) : Except String Unit := do
  requireText outcome.candidateId "candidate_id"
  require (∀ insertion ∈ outcome.insertions, insertion.candidateId = outcome.candidateId)
    "archive insertion candidate_id must match the batch candidate_id"

/-- At least one descriptor entered or improved a cell. -/
def ArchiveBatchOutcome.added (outcome : ArchiveBatchOutcome) : Bool :=
  outcome.insertions.any (·.added)

structure SwarmOutcome where
  assignment : SwarmAssignment
  agentResult : SwarmAgentResult
  evaluatedCandidate : Option EvaluatedCandidate
  archiveOutcome : Option ArchiveBatchOutcome

/-- What the constructor of an outcome checks. -/
def SwarmOutcome.check (outcome : SwarmOutcome) : Except String Unit := do
  require (outcome.assignment.agentId = outcome.agentResult.agentId)
    "assignment and result agent_id must match"
  require (outcome.assignment.assignmentId = outcome.agentResult.assignmentId)
    "assignment and result assignment_id must match"
  match outcome.agentResult.proposal.child, outcome.evaluatedCandidate with
  | none, evaluated =>
    require (evaluated = none ∧ outcome.archiveOutcome = none)
      "proposal without a child cannot have evaluation or archive outcome"
  | some _, none => .error "submitted proposal child requires an evaluated candidate"
  | some child, some evaluated =>
    require (evaluated.snapshot.candidateId = child.candidateId)
      "evaluated candidate must match the proposal child"
    require (∀ archived ∈ outcome.archiveOutcome,
        archived.candidateId = evaluated.snapshot.candidateId)
      "archive outcome must match the evaluated candidate"

structure SwarmDecision where
  continueAgent : Bool
  pivot : Option String
  consolidate : Bool
  stop : Bool
  reason : String

/-- What the constructor of a decision checks. -/
def SwarmDecision.check (decision : SwarmDecision) : Except String Unit := do
  requireText decision.reason "decision reason"
  require (decision.stop = true → decision.continueAgent = false)
    "stopped decision cannot continue an agent"
  require (decision.stop = true → decision.pivot = none)
    "stopped decision cannot include a pivot"
  require (decision.pivot ≠ none → decision.continueAgent = true)
    "pivot decision must continue the agent"

/-! ## The reducer -/

/-- `_RECENT_WINDOW`. -/
def recentWindow : ℕ := 5

/-- `_PIVOT_COOLDOWN`. -/
def pivotCooldown : ℕ := 3

/-- The last `recentWindow` items. -/
def recent {α : Type} (items : List α) : List α := items.drop (items.length - recentWindow)

/-- `_average_descriptors`. -/
def averageDescriptors (descriptors : List BehaviourDescriptor) : BehaviourDescriptor where
  tokenCost := mean (descriptors.map (·.tokenCost))
  verificationDepth := mean (descriptors.map (·.verificationDepth))
  toolDensity := mean (descriptors.map (·.toolDensity))
  explorationRatio := mean (descriptors.map (·.explorationRatio))
  deliberationRatio := mean (descriptors.map (·.deliberationRatio))
  reward := mean (descriptors.map (·.reward))

def agentMissing (agentId : String) : String :=
  s!"swarm outcome agent '{agentId}' is not present in state"

/-- `_replace_agent_state`. -/
def replaceAgentState (agents : List SwarmAgentState) (agentId : String)
    (update : SwarmAgentState → SwarmAgentState) : Except String (List SwarmAgentState) := do
  require (agentId ∈ agents.map (·.agentId)) (agentMissing agentId)
  return agents.map fun agent => if agent.agentId = agentId then update agent else agent

/-- Set what an agent has consumed. -/
def chargeAgent (state : SwarmState) (agentId : String) (consumed : ℚ≥0) :
    Except String SwarmState := do
  let agentStates ← replaceAgentState state.agentStates agentId fun agent =>
    { agent with budgetConsumedUsd := consumed }
  return { state with agentStates }

/-- The counters of an agent. -/
def PivotState.current (pivots : PivotState) (agentId : String) : AgentPivotState :=
  (pivots.agentStates.find? (·.agentId = agentId)).getD { agentId }

/-- The counters after an evaluation, and the reason of a pivot. -/
def AgentPivotState.advance (current : AgentPivotState) (nonImproving pivotAfter : ℕ) :
    AgentPivotState × Option String :=
  if 0 < current.cooldownRemaining then
    ({ current with cooldownRemaining := current.cooldownRemaining - 1 }, none)
  else if pivotAfter ≤ nonImproving then
    ({ current with cooldownRemaining := pivotCooldown, pivotCount := current.pivotCount + 1 },
      some s!"{nonImproving} consecutive non-improving evaluations")
  else (current, none)

/-- Replace the counters of an agent, or append them when it has none. -/
def PivotState.set (pivots : PivotState) (updated : AgentPivotState) : PivotState where
  agentStates :=
    let states := pivots.agentStates.map fun pivot =>
      if pivot.agentId = updated.agentId then updated else pivot
    if updated.agentId ∈ pivots.agentStates.map (·.agentId) then states else states ++ [updated]

/-- `_update_pivot_state` after an evaluation. -/
def updatePivotState (pivots : PivotState) (agentId : String) (nonImproving pivotAfter : ℕ) :
    Except String (PivotState × Option String) := do
  let (updated, pivot) := (pivots.current agentId).advance nonImproving pivotAfter
  (pivots.set updated).check
  return (pivots.set updated, pivot)

/-- Only a valid candidate that entered or improved a cell can become the best one. -/
def SwarmOutcome.accepted (outcome : SwarmOutcome) (evaluated : EvaluatedCandidate) : Bool :=
  evaluated.assessment.valid && outcome.archiveOutcome.any (·.added)

/-- The evaluated candidate becomes the best one. -/
def improvesGlobal (state : SwarmState) (outcome : SwarmOutcome) (evaluated : EvaluatedCandidate)
    (score : ℚ) : Bool :=
  outcome.accepted evaluated && state.bestScore.all fun best => best < score

/-- The part of the reducer that an evaluated candidate goes through. -/
def reduceEvaluation (state : SwarmState) (outcome : SwarmOutcome) (config : SwarmConfig)
    (now : String) (currentAgent : SwarmAgentState) (evaluated : EvaluatedCandidate) :
    Except String (SwarmState × Option String) := do
  let agentId := outcome.assignment.agentId
  let score ← assessmentScore evaluated.assessment config.structuralWeight
  let descriptors ← evaluated.observations.mapM extractBehaviourDescriptor
  let improvedGlobal := improvesGlobal state outcome evaluated score
  let nonImproving :=
    if currentAgent.bestScore < score then 0 else currentAgent.consecutiveNonImproving + 1
  let focus :=
    if descriptors = [] then currentAgent.currentBdFocus else some (averageDescriptors descriptors)
  let agentStates ← replaceAgentState state.agentStates agentId fun agent =>
    { agent with
      evalCount := currentAgent.evalCount + 1
      bestScore := max currentAgent.bestScore score
      lastEvaluatedAt := now
      consecutiveNonImproving := nonImproving
      currentBdFocus := focus }
  let (pivotState, pivot) ←
    updatePivotState state.pivotState agentId nonImproving config.pivotAfter
  return ({ state with
    totalEvaluations := state.totalEvaluations + 1
    bestCandidateId :=
      if improvedGlobal then some evaluated.snapshot.candidateId else state.bestCandidateId
    bestScore := if improvedGlobal then some score else state.bestScore
    agentStates
    recentScores := recent (state.recentScores ++ [score])
    recentDescriptors := recent (state.recentDescriptors ++ descriptors)
    pivotState }, pivot)

/-- The decision about the agent. -/
def swarmDecision (state : SwarmState) (evaluated : Bool) (pivot : Option String)
    (budgetExhausted : Bool) (config : SwarmConfig) (totalEvaluations : ℕ) : SwarmDecision :=
  let consolidate : Bool :=
    evaluated ∧ 0 < totalEvaluations ∧ totalEvaluations % config.consolidateEvery = 0
  if state.stopped || budgetExhausted then
    ⟨false, none, consolidate, true, state.stopReason.getD "budget exhausted"⟩
  else
    match pivot with
    | some reason => ⟨true, some reason, consolidate, false, reason⟩
    | none =>
      ⟨true, none, consolidate, false,
        if evaluated then "host evaluation recorded" else "no child submitted"⟩

/-- Reduce one outcome into the next state and the decision about its agent. -/
def nextSwarmState (state : SwarmState) (outcome : SwarmOutcome) (budget : BudgetSnapshot)
    (config : SwarmConfig) (now : String) : Except String (SwarmState × SwarmDecision) := do
  let agentId := outcome.assignment.agentId
  let result := outcome.agentResult
  require (result.agentId = agentId ∧ result.assignmentId = outcome.assignment.assignmentId)
    "outcome assignment and result identities must match"
  let currentAgent ←
    (state.agentStates.find? (·.agentId = agentId)).elim (.error (agentMissing agentId)) .ok
  require (result.proposal.child ≠ none → outcome.evaluatedCandidate ≠ none)
    "submitted proposal requires a selection-checked candidate"
  require (outcome.evaluatedCandidate ≠ none → result.proposal.child ≠ none)
    "evaluated candidate requires a submitted proposal child"
  let agentCost ← result.agentUsage.totalCostUsd.elim
    (.error "swarm agent usage has unknown cost and cannot be applied to a USD budget") .ok
  let charged ← chargeAgent state agentId (currentAgent.budgetConsumedUsd + agentCost)
  let (reduced, pivot) ← outcome.evaluatedCandidate.elim (.ok (charged, none))
    (reduceEvaluation charged outcome config now currentAgent)
  let decision := swarmDecision state outcome.evaluatedCandidate.isSome pivot budget.exhausted
    config reduced.totalEvaluations
  decision.check
  let next := { reduced with
    stopped := decision.stop
    stopReason := if decision.stop then some decision.reason else none }
  next.check
  return (next, decision)

/-! ## What the reducer keeps -/

section Reducer

variable {state next : SwarmState} {outcome : SwarmOutcome} {budget : BudgetSnapshot}
  {config : SwarmConfig} {now : String} {decision : SwarmDecision}

variable {agentId : String} {agents : List SwarmAgentState} {update : SwarmAgentState →
  SwarmAgentState}

lemma replaceAgentState_eq_ok {agents' : List SwarmAgentState} :
    replaceAgentState agents agentId update = .ok agents' ↔
      agentId ∈ agents.map (·.agentId) ∧
        agents.map (fun agent => if agent.agentId = agentId then update agent else agent) =
          agents' := by
  rw [replaceAgentState, require_bind_eq_ok, pure_eq_ok]

lemma map_agentId_replace (h : ∀ agent, (update agent).agentId = agent.agentId) :
    (agents.map fun agent => if agent.agentId = agentId then update agent else agent).map
        (·.agentId) = agents.map (·.agentId) := by
  rw [List.map_map]
  refine List.map_congr_left fun agent _ => ?_
  by_cases heq : agent.agentId = agentId <;> simp [heq, h]

/-- An update of one agent that keeps the fields of its record valid keeps all valid. -/
lemma errors_replace (hvalid : ∀ agent ∈ agents, agent.errors = [])
    (h : ∀ agent : SwarmAgentState, agent.errors = [] → (update agent).errors = []) :
    ∀ agent ∈ agents.map fun agent => if agent.agentId = agentId then update agent else agent,
      agent.errors = [] := by
  intro agent hagent
  obtain ⟨old, hold, rfl⟩ := List.mem_map.mp hagent
  by_cases heq : old.agentId = agentId
  · rw [if_pos heq]
    exact h old (hvalid old hold)
  · rw [if_neg heq]
    exact hvalid old hold

lemma PivotState.current_agentId (pivots : PivotState) (agentId : String) :
    (pivots.current agentId).agentId = agentId := by
  rw [current]
  cases hfind : pivots.agentStates.find? (·.agentId = agentId) with
  | none => rfl
  | some pivot => simpa using List.find?_some hfind

lemma AgentPivotState.advance_agentId (current : AgentPivotState) (nonImproving pivotAfter : ℕ) :
    (current.advance nonImproving pivotAfter).1.agentId = current.agentId := by
  rw [advance]
  split_ifs <;> rfl

lemma PivotState.mem_set {updated entry : AgentPivotState}
    (h : entry ∈ (pivots.set updated).agentStates) :
    entry = updated ∨ entry ∈ pivots.agentStates := by
  have hstates : ∀ e ∈ pivots.agentStates.map (fun pivot =>
      if pivot.agentId = updated.agentId then updated else pivot),
      e = updated ∨ e ∈ pivots.agentStates := by
    intro e he
    obtain ⟨old, hold, rfl⟩ := List.mem_map.mp he
    by_cases heq : old.agentId = updated.agentId
    · exact .inl (if_pos heq)
    · rw [if_neg heq]
      exact .inr hold
  simp only [set] at h
  by_cases hmem : updated.agentId ∈ pivots.agentStates.map (·.agentId)
  · rw [if_pos hmem] at h
    exact hstates entry h
  · rw [if_neg hmem] at h
    rcases List.mem_append.mp h with h | h
    · exact hstates entry h
    · exact .inl (List.mem_singleton.mp h)

lemma PivotState.check_set {updated : AgentPivotState} (h : pivots.check = .ok ())
    (hid : ¬ Text.Blank updated.agentId) : (pivots.set updated).check = .ok () := by
  obtain ⟨htexts, hnodup⟩ := PivotState.check_eq_ok.mp h
  have hids : (pivots.agentStates.map fun pivot =>
      if pivot.agentId = updated.agentId then updated else pivot).map (·.agentId) =
      pivots.agentStates.map (·.agentId) := by
    rw [List.map_map]
    refine List.map_congr_left fun pivot _ => ?_
    by_cases heq : pivot.agentId = updated.agentId <;> simp [heq]
  refine PivotState.check_eq_ok.mpr ⟨fun entry hentry => ?_, ?_⟩
  · rcases PivotState.mem_set hentry with rfl | hold
    · exact hid
    · exact htexts entry hold
  · simp only [set]
    by_cases hmem : updated.agentId ∈ pivots.agentStates.map (·.agentId)
    · rw [if_pos hmem, hids]
      exact hnodup
    · rw [if_neg hmem, List.map_append, hids]
      exact List.nodup_append.mpr ⟨hnodup, List.nodup_singleton _, by
        intro a ha b hb hab
        rw [List.map_cons, List.map_nil, List.mem_singleton] at hb
        exact hmem (hb ▸ hab ▸ ha)⟩

variable {pivot : Option String}

lemma updatePivotState_eq_ok {pivots' : PivotState} {nonImproving pivotAfter : ℕ} :
    updatePivotState pivots agentId nonImproving pivotAfter = .ok (pivots', pivot) ↔
      pivots'.check = .ok () ∧
        ((pivots.current agentId).advance nonImproving pivotAfter).2 = pivot ∧
        pivots.set ((pivots.current agentId).advance nonImproving pivotAfter).1 = pivots' := by
  simp only [updatePivotState, unit_bind_eq_ok, pure_eq_ok, Prod.mk.injEq]
  constructor
  all_goals
    rintro ⟨hcheck, rfl, rfl⟩
    exact ⟨hcheck, rfl, rfl⟩

/-- What the reducer's callers rely on: the state, its agents and its counters are valid. -/
structure SwarmState.WellFormed (state : SwarmState) : Prop where
  valid : state.Valid
  agents : ∀ agent ∈ state.agentStates, agent.errors = []
  pivots : state.pivotState.check = .ok ()

lemma exists_mapM_extractBehaviourDescriptor {observations : List EvolutionObservation}
    (h : ∀ obs ∈ observations, obs.trial.evaluation ≠ none) :
    ∃ bds, observations.mapM extractBehaviourDescriptor = .ok bds := by
  induction observations with
  | nil => exact ⟨[], rfl⟩
  | cons obs rest ih =>
    obtain ⟨bd, hbd⟩ := exists_extractBehaviourDescriptor (h obs List.mem_cons_self)
    obtain ⟨bds, hbds⟩ := ih fun o ho => h o (List.mem_cons_of_mem _ ho)
    exact ⟨bd :: bds, mapM_eq_ok.mpr (.cons hbd (mapM_eq_ok.mp hbds))⟩

/-- What the reduction of an evaluation does to a state. -/
structure EvaluationReduced (state : SwarmState) (outcome : SwarmOutcome) (config : SwarmConfig)
    (evaluated : EvaluatedCandidate) (next : SwarmState) (pivot : Option String) : Prop where
  runId : next.runId = state.runId
  stop : next.stopped = state.stopped ∧ next.stopReason = state.stopReason
  agentIds : next.agentStates.map (·.agentId) = state.agentStates.map (·.agentId)
  agents : (∀ agent ∈ state.agentStates, agent.errors = []) →
    ∀ agent ∈ next.agentStates, agent.errors = []
  agent : outcome.assignment.agentId ∈ state.agentStates.map (·.agentId)
  pivots : next.pivotState.check = .ok ()
  pivotIds : ∀ entry ∈ next.pivotState.agentStates,
    entry.agentId = outcome.assignment.agentId ∨ entry ∈ state.pivotState.agentStates
  reason : ∀ reason ∈ pivot, ¬ Text.Blank reason
  descriptors : ∀ bd ∈ next.recentDescriptors, 0 ≤ bd.tokenCost ∨ bd ∈ state.recentDescriptors
  best : ∃ score, assessmentScore evaluated.assessment config.structuralWeight = .ok score ∧
    (next.bestCandidateId, next.bestScore) =
      if improvesGlobal state outcome evaluated score then
        (some evaluated.snapshot.candidateId, some score)
      else (state.bestCandidateId, state.bestScore)

lemma mem_of_mem_recent {α : Type} {items : List α} {a : α} (h : a ∈ recent items) : a ∈ items :=
  List.mem_of_mem_drop h

lemma tokenCost_nonneg {obs : EvolutionObservation} {bd : BehaviourDescriptor}
    (h : extractBehaviourDescriptor obs = .ok bd) : 0 ≤ bd.tokenCost := by
  simp only [extractBehaviourDescriptor, bind_eq_ok] at h
  obtain ⟨evaluation, -, h⟩ := h
  cases hdigest : obs.enrichment.traceDigest with
  | none =>
    simp only [hdigest, pure_eq_ok] at h
    rw [← h]
    exact Nat.cast_nonneg _
  | some digest =>
    simp only [hdigest] at h
    by_cases hbonds : digest.bondSequence = ""
    · rw [if_pos hbonds, pure_eq_ok] at h
      rw [← h]
      exact Nat.cast_nonneg _
    · rw [if_neg hbonds, pure_eq_ok] at h
      rw [← h]
      exact Nat.cast_nonneg _

lemma AgentPivotState.advance_reason {current : AgentPivotState} {nonImproving pivotAfter : ℕ}
    {reason : String} (h : (current.advance nonImproving pivotAfter).2 = some reason) :
    ¬ Text.Blank reason := by
  rw [advance] at h
  split_ifs at h
  rw [← Option.some.inj h]
  exact Text.not_blank_append_right _ (by decide)

variable {evaluated : EvaluatedCandidate}

lemma reduceEvaluation_reduced {currentAgent : SwarmAgentState}
    (h : reduceEvaluation state outcome config now currentAgent evaluated = .ok (next, pivot)) :
    EvaluationReduced state outcome config evaluated next pivot := by
  simp only [reduceEvaluation, bind_eq_ok, pure_eq_ok, Prod.mk.injEq, Prod.exists] at h
  obtain ⟨score, hscore, bds, hbds, agents', hagents, pivots', pivot', hpivots, rfl, rfl⟩ := h
  obtain ⟨hagent, rfl⟩ := replaceAgentState_eq_ok.mp hagents
  obtain ⟨hcheck, rfl, rfl⟩ := updatePivotState_eq_ok.mp hpivots
  exact {
    runId := rfl
    stop := ⟨rfl, rfl⟩
    agentIds := map_agentId_replace fun _ => rfl
    agents := fun hvalid => errors_replace hvalid fun agent hagent => by
      exact hagent
    agent := hagent
    pivots := hcheck
    pivotIds := fun entry hentry => by
      rcases PivotState.mem_set hentry with rfl | hold
      · exact .inl ((AgentPivotState.advance_agentId _ _ _).trans
          (PivotState.current_agentId _ _))
      · exact .inr hold
    reason := fun reason hreason => AgentPivotState.advance_reason hreason
    descriptors := fun bd hbd => by
      rcases List.mem_append.mp (mem_of_mem_recent hbd) with hold | hnew
      · exact .inr hold
      · obtain ⟨obs, -, hobs⟩ := exists_of_mem_mapM hbds bd hnew
        exact .inl (tokenCost_nonneg hobs)
    best := ⟨score, hscore, by
      cases himproves : improvesGlobal state outcome evaluated score <;> simp⟩ }

/-- An evaluation with a score, of a sound candidate and a known agent, is always reduced. -/
lemma exists_reduceEvaluation (hstate : state.WellFormed) {currentAgent : SwarmAgentState}
    {score : ℚ} (hagent : outcome.assignment.agentId ∈ state.agentStates.map (·.agentId))
    (hsound : evaluated.Sound)
    (hscore : assessmentScore evaluated.assessment config.structuralWeight = .ok score) :
    ∃ reduced pivot,
      reduceEvaluation state outcome config now currentAgent evaluated = .ok (reduced, pivot) := by
  obtain ⟨bds, hbds⟩ := exists_mapM_extractBehaviourDescriptor hsound.evaluations
  have hblank : ¬ Text.Blank outcome.assignment.agentId := by
    obtain ⟨agent, hmem, heq⟩ := List.mem_map.mp hagent
    rw [← heq]
    exact (SwarmAgentState.errors_eq_nil.mp (hstate.agents agent hmem)).1
  have hset : ∀ nonImproving, (state.pivotState.set ((state.pivotState.current
      outcome.assignment.agentId).advance nonImproving config.pivotAfter).1).check = .ok () := by
    intro nonImproving
    refine PivotState.check_set hstate.pivots ?_
    rw [AgentPivotState.advance_agentId, PivotState.current_agentId]
    exact hblank
  simp only [reduceEvaluation, bind_eq_ok, pure_eq_ok, Prod.exists]
  exact ⟨_, _, score, hscore, bds, hbds, _, replaceAgentState_eq_ok.mpr ⟨hagent, rfl⟩, _, _,
    updatePivotState_eq_ok.mpr ⟨hset _, rfl, rfl⟩, rfl⟩

/-- Inversion of the reducer: the state it reduces an evaluation from, and the two records it
checks at the end. -/
lemma nextSwarmState_eq_ok :
    nextSwarmState state outcome budget config now = .ok (next, decision) ↔
      ∃ currentAgent agentCost charged reduced pivot,
        (outcome.agentResult.agentId = outcome.assignment.agentId ∧
          outcome.agentResult.assignmentId = outcome.assignment.assignmentId) ∧
        state.agentStates.find? (·.agentId = outcome.assignment.agentId) = some currentAgent ∧
        (outcome.agentResult.proposal.child ≠ none ↔ outcome.evaluatedCandidate ≠ none) ∧
        outcome.agentResult.agentUsage.totalCostUsd = some agentCost ∧
        chargeAgent state outcome.assignment.agentId
          (currentAgent.budgetConsumedUsd + agentCost) = .ok charged ∧
        outcome.evaluatedCandidate.elim (.ok (charged, none))
          (reduceEvaluation charged outcome config now currentAgent) = .ok (reduced, pivot) ∧
        swarmDecision state outcome.evaluatedCandidate.isSome pivot budget.exhausted config
          reduced.totalEvaluations = decision ∧
        decision.check = .ok () ∧ next.check = .ok () ∧
        { reduced with
          stopped := decision.stop
          stopReason := if decision.stop then some decision.reason else none } = next := by
  have hagent : ∀ agent, (state.agentStates.find? (·.agentId = outcome.assignment.agentId)).elim
      (.error (agentMissing outcome.assignment.agentId)) Except.ok = .ok agent ↔
      state.agentStates.find? (·.agentId = outcome.assignment.agentId) = some agent := by
    intro agent
    cases state.agentStates.find? (·.agentId = outcome.assignment.agentId) <;> simp
  have hcost : ∀ cost, outcome.agentResult.agentUsage.totalCostUsd.elim
      (.error "swarm agent usage has unknown cost and cannot be applied to a USD budget")
      Except.ok = .ok cost ↔ outcome.agentResult.agentUsage.totalCostUsd = some cost := by
    intro cost
    cases outcome.agentResult.agentUsage.totalCostUsd <;> simp
  simp only [nextSwarmState, bind_eq_ok, require_eq_ok, pure_eq_ok, hagent, hcost,
    Unique.exists_iff, PUnit.default_eq_unit, Prod.mk.injEq, Prod.exists]
  constructor
  · rintro ⟨hids, agent, hfind, hchild, hevaluated, cost, hcost, charged, hcharged, reduced,
      pivot, hreduced, hdecision, hnext, rfl, rfl⟩
    exact ⟨agent, cost, charged, reduced, pivot, hids, hfind, ⟨hchild, hevaluated⟩, hcost,
      hcharged, hreduced, rfl, hdecision, hnext, rfl⟩
  · rintro ⟨agent, cost, charged, reduced, pivot, hids, hfind, ⟨hchild, hevaluated⟩, hcost,
      hcharged, hreduced, rfl, hdecision, hnext, rfl⟩
    exact ⟨hids, agent, hfind, hchild, hevaluated, cost, hcost, charged, hcharged, reduced, pivot,
      hreduced, hdecision, hnext, rfl, rfl⟩

lemma swarmDecision_check {evaluated exhausted : Bool} {total : ℕ}
    (hstop : stopAgrees state.stopped state.stopReason)
    (hpivot : ∀ reason ∈ pivot, ¬ Text.Blank reason) :
    (swarmDecision state evaluated pivot exhausted config total).check = .ok () ∧
      ((swarmDecision state evaluated pivot exhausted config total).stop = true →
        ¬ Text.Blank (swarmDecision state evaluated pivot exhausted config total).reason) := by
  have hreason : ¬ Text.Blank (state.stopReason.getD "budget exhausted") := by
    rw [stopAgrees] at hstop
    by_cases hs : state.stopped = true
    · rw [if_pos hs] at hstop
      obtain ⟨reason, hreason, hblank⟩ := hstop
      rw [hreason]
      exact hblank
    · rw [if_neg hs] at hstop
      rw [hstop]
      decide
  simp only [swarmDecision, SwarmDecision.check, unit_bind_eq_ok, requireText_eq_ok]
  by_cases hs : (state.stopped || exhausted) = true
  · simp only [if_pos hs]
    exact ⟨⟨hreason, by simp⟩, fun _ => hreason⟩
  · simp only [if_neg hs]
    cases pivot with
    | some reason => exact ⟨⟨hpivot reason rfl, by simp⟩, by simp⟩
    | none =>
      have hnone : ¬ Text.Blank "no child submitted" := by decide
      have hrecorded : ¬ Text.Blank "host evaluation recorded" := by decide
      cases evaluated
      · exact ⟨⟨hnone, by simp⟩, by simp⟩
      · exact ⟨⟨hrecorded, by simp⟩, by simp⟩

/-- What charging an agent does: the agent is known, the state stays well formed, and only the
agents change. -/
lemma chargeAgent_eq_ok {consumed : ℚ≥0} {charged : SwarmState}
    (h : chargeAgent state agentId consumed = .ok charged) :
    agentId ∈ state.agentStates.map (·.agentId) ∧
      charged = { state with agentStates := charged.agentStates } ∧
      charged.agentStates.map (·.agentId) = state.agentStates.map (·.agentId) ∧
      ((∀ agent ∈ state.agentStates, agent.errors = []) →
        ∀ agent ∈ charged.agentStates, agent.errors = []) := by
  simp only [chargeAgent, bind_eq_ok, pure_eq_ok] at h
  obtain ⟨agents, hagents, rfl⟩ := h
  obtain ⟨hagent, rfl⟩ := replaceAgentState_eq_ok.mp hagents
  refine ⟨hagent, rfl, map_agentId_replace fun _ => rfl, fun hvalid => ?_⟩
  exact errors_replace hvalid fun agent ha => by
    exact ha

lemma chargeAgent_wellFormed (hstate : state.WellFormed) {consumed : ℚ≥0} {charged : SwarmState}
    (h : chargeAgent state agentId consumed = .ok charged) : charged.WellFormed := by
  obtain ⟨-, hcharged, hids, hagents⟩ := chargeAgent_eq_ok h
  obtain ⟨hrun, hbest, htogether, hstop, hnodup, hpivots, hbds⟩ := hstate.valid
  refine ⟨?_, hagents hstate.agents, ?_⟩
  · rw [← hids] at hnodup hpivots
    rw [hcharged]
    exact ⟨hrun, hbest, htogether, hstop, hnodup, hpivots, hbds⟩
  · rw [hcharged]
    exact hstate.pivots

lemma exists_chargeAgent (consumed : ℚ≥0) (h : agentId ∈ state.agentStates.map (·.agentId)) :
    ∃ charged, chargeAgent state agentId consumed = .ok charged := by
  simp only [chargeAgent, bind_eq_ok, pure_eq_ok]
  exact ⟨_, _, replaceAgentState_eq_ok.mpr ⟨h, rfl⟩, rfl⟩

/-- **The reducer keeps the state well formed.** -/
theorem nextSwarmState_wellFormed (hstate : state.WellFormed)
    (h : nextSwarmState state outcome budget config now = .ok (next, decision)) :
    next.WellFormed := by
  obtain ⟨agent, cost, charged, reduced, pivot, -, -, -, -, hcharged, hreduced, -, -, hcheck, rfl⟩ :=
    nextSwarmState_eq_ok.mp h
  have hwf := chargeAgent_wellFormed hstate hcharged
  refine ⟨SwarmState.check_eq_ok.mp hcheck, ?_, ?_⟩
  · cases hevaluated : outcome.evaluatedCandidate with
    | none =>
      rw [hevaluated, Option.elim_none, Except.ok.injEq, Prod.mk.injEq] at hreduced
      obtain ⟨rfl, -⟩ := hreduced
      exact hwf.agents
    | some evaluated =>
      rw [hevaluated, Option.elim_some] at hreduced
      exact (reduceEvaluation_reduced hreduced).agents hwf.agents
  · cases hevaluated : outcome.evaluatedCandidate with
    | none =>
      rw [hevaluated, Option.elim_none, Except.ok.injEq, Prod.mk.injEq] at hreduced
      obtain ⟨rfl, -⟩ := hreduced
      exact hwf.pivots
    | some evaluated =>
      rw [hevaluated, Option.elim_some] at hreduced
      exact (reduceEvaluation_reduced hreduced).pivots

/-- **The best candidate after a reduction** is the best one before it, or the accepted
candidate of the outcome. -/
theorem nextSwarmState_best
    (h : nextSwarmState state outcome budget config now = .ok (next, decision)) :
    next.bestCandidateId = state.bestCandidateId ∨
      ∃ evaluated, outcome.evaluatedCandidate = some evaluated ∧
        outcome.accepted evaluated = true ∧
        next.bestCandidateId = some evaluated.snapshot.candidateId := by
  obtain ⟨agent, cost, charged, reduced, pivot, -, -, -, -, hcharged, hreduced, -, -, -, rfl⟩ :=
    nextSwarmState_eq_ok.mp h
  have hsame : charged.bestCandidateId = state.bestCandidateId := by
    rw [(chargeAgent_eq_ok hcharged).2.1]
  cases hevaluated : outcome.evaluatedCandidate with
  | none =>
    rw [hevaluated, Option.elim_none, Except.ok.injEq, Prod.mk.injEq] at hreduced
    obtain ⟨rfl, -⟩ := hreduced
    exact .inl hsame
  | some evaluated =>
    rw [hevaluated, Option.elim_some] at hreduced
    obtain ⟨score, -, hbest⟩ := (reduceEvaluation_reduced hreduced).best
    cases himproves : improvesGlobal charged outcome evaluated score
    · rw [himproves, if_neg Bool.false_ne_true, Prod.mk.injEq] at hbest
      exact .inl (hbest.1.trans hsame)
    · rw [himproves, if_pos rfl, Prod.mk.injEq] at hbest
      rw [improvesGlobal, Bool.and_eq_true] at himproves
      exact .inr ⟨evaluated, rfl, himproves.1, hbest.1⟩

/-- **An accepted candidate with a higher score becomes the best one**: nothing that the
reducer checks can fail for it. -/
theorem nextSwarmState_of_accepted (budget : BudgetSnapshot) (now : String)
    (hstate : state.WellFormed) {agentCost : ℚ≥0} {score : ℚ}
    (hids : outcome.agentResult.agentId = outcome.assignment.agentId ∧
      outcome.agentResult.assignmentId = outcome.assignment.assignmentId)
    (hagent : outcome.assignment.agentId ∈ state.agentStates.map (·.agentId))
    (hchild : outcome.agentResult.proposal.child ≠ none)
    (hcost : outcome.agentResult.agentUsage.totalCostUsd = some agentCost)
    (hevaluated : outcome.evaluatedCandidate = some evaluated) (hsound : evaluated.Sound)
    (hid : ¬ Text.Blank evaluated.snapshot.candidateId)
    (haccepted : outcome.accepted evaluated = true)
    (hscore : assessmentScore evaluated.assessment config.structuralWeight = .ok score)
    (hbest : ∀ best ∈ state.bestScore, best < score) :
    ∃ next decision, nextSwarmState state outcome budget config now = .ok (next, decision) ∧
      next.bestCandidateId = some evaluated.snapshot.candidateId := by
  obtain ⟨current, hfind⟩ : ∃ current,
      state.agentStates.find? (·.agentId = outcome.assignment.agentId) = some current := by
    obtain ⟨agent, hmem, heq⟩ := List.mem_map.mp hagent
    cases hfind : state.agentStates.find? (·.agentId = outcome.assignment.agentId) with
    | some current => exact ⟨current, rfl⟩
    | none => exact absurd heq (by simpa using List.find?_eq_none.mp hfind agent hmem)
  obtain ⟨charged, hcharged⟩ :=
    exists_chargeAgent (current.budgetConsumedUsd + agentCost) hagent
  obtain ⟨-, heq, hids', -⟩ := chargeAgent_eq_ok hcharged
  have hwf := chargeAgent_wellFormed hstate hcharged
  have hagent' := hagent
  rw [← hids'] at hagent'
  obtain ⟨reduced, pivot, hreduced⟩ := exists_reduceEvaluation hwf hagent' hsound hscore
  have hspec := reduceEvaluation_reduced hreduced
  obtain ⟨score', hscore', hbest'⟩ := hspec.best
  obtain rfl : score' = score := Except.ok.inj (hscore'.symm.trans hscore)
  have himproves : improvesGlobal charged outcome evaluated score' = true := by
    have hcharged : charged.bestScore = state.bestScore := by rw [heq]
    rw [improvesGlobal, haccepted, Bool.true_and, hcharged]
    cases hs : state.bestScore with
    | none => rfl
    | some best => simpa using hbest best hs
  rw [himproves, if_pos rfl, Prod.mk.injEq] at hbest'
  have hstop := hstate.valid.stop
  obtain ⟨hdecision, hreason⟩ := swarmDecision_check hstop hspec.reason
  have hiff : outcome.agentResult.proposal.child ≠ none ↔ outcome.evaluatedCandidate ≠ none := by
    simp [hchild, hevaluated]
  refine ⟨_, _, nextSwarmState_eq_ok.mpr ⟨current, agentCost, charged, reduced, pivot, hids, hfind,
    hiff, hcost, hcharged, ?_, rfl, hdecision, ?_, rfl⟩, hbest'.1⟩
  · rw [hevaluated]
    exact hreduced
  · refine SwarmState.check_eq_ok.mpr {
      runId := hspec.runId ▸ hwf.valid.runId
      bestId := fun id hmem => ?_
      bestTogether := ?_
      stop := ?_
      agentIds := hspec.agentIds ▸ hwf.valid.agentIds
      pivotIds := fun entry hentry => ?_
      descriptors := fun bd hbd => ?_ }
    · rw [hbest'.1] at hmem
      rw [← Option.some.inj hmem]
      exact hid
    · rw [hbest'.1, hbest'.2]
      rfl
    · rw [stopAgrees]
      split_ifs with hs
      · exact ⟨_, rfl, hreason hs⟩
      · rfl
    · rw [hspec.agentIds]
      rcases hspec.pivotIds entry hentry with hnew | hold
      · rw [hnew]
        exact hagent'
      · exact hwf.valid.pivotIds entry hold
    · rcases hspec.descriptors bd hbd with hnew | hold
      · exact hnew
      · exact hwf.valid.descriptors bd hold

end Reducer

end AecBench.Evolution.Swarm
