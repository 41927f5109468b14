import AecBench.Evolution.Swarm.Core
import AecBench.Evolution.Swarm.Stores
import AecBench.Lib.Machine

/-!
# The swarm manager

The manager evaluates the results of its agents and applies each to the shared stores and to
the state of the run. An exception while a result is applied leaves behind what was changed
before it.

## Main definitions

* `SwarmManager`, `SwarmManager.start` — the manager, and the one of a fresh run.
* `evaluateAssignment`, `applySwarmEvaluation` — the evaluation of a result and its effects on
  the archive and the graveyard.
* `SwarmManager.onResult` — the callback for one result.
* `swarmMachine` — runs of a manager: assignments are requested and results are delivered.

## Implementation notes

Evaluating a result happens before the lock is taken and reads of the manager only what the
answers of the evaluation services may depend on anyway, so a result is evaluated and applied
in one step. Events, the counters of consecutive errors and the consolidation report are left
out: no state file is built from them.
-/

namespace AecBench.Evolution.Swarm

open Validation

/-! ## Evaluating a result -/

structure SwarmEvaluation where
  assignment : SwarmAssignment
  agentResult : SwarmAgentResult
  parent : Option EvaluatedCandidate
  child : Option EvaluatedCandidate

/-- What the constructor of an evaluation checks. -/
def SwarmEvaluation.check (evaluated : SwarmEvaluation) : Except String Unit := do
  let child := evaluated.agentResult.proposal.child
  require (evaluated.assignment.agentId = evaluated.agentResult.agentId)
    "assignment and result agent_id must match"
  require (evaluated.assignment.assignmentId = evaluated.agentResult.assignmentId)
    "assignment and result assignment_id must match"
  require (evaluated.parent = none → evaluated.child = none)
    "evaluated child requires an evaluated parent"
  require (child = none → evaluated.parent = none ∧ evaluated.child = none)
    "proposal without a child cannot have evaluation"
  require (child ≠ none → evaluated.parent ≠ none)
    "submitted proposal requires an evaluated parent"
  require (child ≠ none → evaluated.agentResult.proposal.status = .submitted)
    "proposal child requires submitted proposal status"
  require (∀ parent ∈ evaluated.parent,
      parent.snapshot.candidateId = evaluated.assignment.parent.candidateId)
    "evaluated parent must match the assigned parent"
  require (∀ candidate ∈ evaluated.child, some candidate.snapshot = child)
    "evaluated child must bind the exact submitted snapshot"
  require (∀ candidate ∈ evaluated.child,
      candidate.snapshot.candidateId ≠ evaluated.assignment.parent.candidateId)
    "evaluated child candidate_id must differ from the assigned parent"

/-- The constructor of an evaluation. -/
def swarmEvaluation (assignment : SwarmAssignment) (agentResult : SwarmAgentResult)
    (parent child : Option EvaluatedCandidate) : Except String SwarmEvaluation := do
  let evaluated : SwarmEvaluation := { assignment, agentResult, parent, child }
  evaluated.check
  return evaluated

/-- `_validate_inputs`. -/
def validateInputs (assignment : SwarmAssignment) (agentResult : SwarmAgentResult)
    (runId : String) (cycle : ℕ) : Except String Unit := do
  require (assignment.agentId = agentResult.agentId) "assignment and result agent_id must match"
  require (assignment.assignmentId = agentResult.assignmentId)
    "assignment and result assignment_id must match"
  requireText runId "run_id"
  require (1 ≤ cycle) "cycle must be a positive integer"
  require (agentResult.proposal.child ≠ none → agentResult.proposal.status = .submitted)
    "proposal child requires submitted proposal status"
  require (agentResult.proposal.status = .submitted → agentResult.proposal.child ≠ none)
    "submitted proposal did not provide a child snapshot"
  require (∀ child ∈ agentResult.proposal.child,
      child.candidateId ≠ assignment.parent.candidateId)
    "submitted child candidate_id must differ from the parent"

def evaluateAssignment (assignment : SwarmAssignment) (agentResult : SwarmAgentResult)
    (batch : CandidateEvaluationBatch) (checks : CandidateChecks) (runId : String) (cycle : ℕ) :
    Except String SwarmEvaluation := do
  validateInputs assignment agentResult runId cycle
  match agentResult.proposal.child with
  | none => swarmEvaluation assignment agentResult none none
  | some childSnapshot =>
    let parent ← checks.assess assignment.parent batch
    let child ← checks.assess childSnapshot batch
    requireSameEvaluationCases parent child
    swarmEvaluation assignment agentResult (some parent) (some child)

/-- `_trial_cost`. -/
def trialCost (record : TrialRecord) : Option ℚ≥0 := record.cost.bind (·.estimatedCostUsd)

/-- `_evaluation_cost`: the cost of all trials, when every one of them is known. -/
def evaluationCost (evaluated : SwarmEvaluation) : Option ℚ≥0 :=
  match evaluated.parent, evaluated.child with
  | some parent, some child =>
    ((parent.observations ++ child.observations).mapM fun obs => trialCost obs.trial).map List.sum
  | _, _ => some 0

/-! ## Effects on the archive and the graveyard -/

/-- `_graveyard_entry`. -/
def graveyardEntry (evaluated : SwarmEvaluation) (parent child : EvaluatedCandidate) (cycle : ℕ)
    (runId now reason : String) : Except String GraveyardEntry := do
  require (evaluated.agentResult.proposal.mutation ≠ none)
    "graveyard entry requires a mutation summary"
  return {
    cycle
    strategy := evaluated.assignment.selection.strategy.value
    mutationDescription := evaluated.agentResult.proposal.reasoning
    scoreBefore := parent.assessment.batchScore
    scoreAfter := child.assessment.batchScore
    candidateId := child.snapshot.candidateId
    failureReason := reason
    parentCandidateId := some parent.snapshot.candidateId
    rejectedSnapshot := some child.snapshot
    parentAssessment := some parent.assessment
    childAssessment := some child.assessment
    mutation := evaluated.agentResult.proposal.mutation
    runId := some runId
    timestamp := some now }

/-- The descriptor of the first observation. -/
def firstDescriptor (candidate : EvaluatedCandidate) : Except String BehaviourDescriptor :=
  candidate.observations.head?.elim (.error "tuple index out of range") extractBehaviourDescriptor

/-- Why an evaluated child is buried: it is invalid, or no cell took it. -/
def rejectionReason (child : EvaluatedCandidate) (archived : Option ArchiveBatchOutcome) :
    Option String :=
  if child.assessment.valid = false then
    some (if child.assessment.invalidReasons = [] then "candidate evaluation was invalid"
      else "; ".intercalate child.assessment.invalidReasons)
  else if archived.any (·.added) then none
  else some "candidate did not enter or improve a quality-diversity archive cell"

variable (ribs : CVTArchive)

/-- The insertion of a valid child. -/
def archiveChild (child : EvaluatedCandidate) (archive : QDArchive) (runId : String) :
    Except String (Option ArchiveBatchOutcome × QDArchive) := do
  if child.assessment.valid then
    let descriptors ← child.observations.mapM extractBehaviourDescriptor
    let (insertions, archive) :=
      archive.insertAll ribs child.snapshot runId (descriptors.zip child.observations)
    let outcome : ArchiveBatchOutcome :=
      { candidateId := child.snapshot.candidateId, insertions }
    outcome.check
    return (some outcome, archive)
  else return (none, archive)

/-- Apply an evaluated result to the archive and the graveyard. What is raised is raised before
the first effect: the constructors after it never fail (`exists_applyEvaluation`). -/
def applySwarmEvaluation (evaluated : SwarmEvaluation) (archive : QDArchive)
    (graveyard : SharedGraveyard) (runId : String) (cycle : ℕ) (now : String) :
    Except String (SwarmOutcome × QDArchive × SharedGraveyard) := do
  validateInputs evaluated.assignment evaluated.agentResult runId cycle
  match evaluated.parent, evaluated.child with
  | some parent, some child =>
    let (archiveOutcome, archive) ← archiveChild ribs child archive runId
    let graveyard ← (rejectionReason child archiveOutcome).elim (.ok graveyard) fun reason => do
      let entry ← graveyardEntry evaluated parent child cycle runId now reason
      let bd ← firstDescriptor child
      return graveyard.insert entry bd evaluated.assignment.agentId
    let outcome : SwarmOutcome :=
      { assignment := evaluated.assignment, agentResult := evaluated.agentResult,
        evaluatedCandidate := some child, archiveOutcome }
    outcome.check
    return (outcome, archive, graveyard)
  | _, _ =>
    let outcome : SwarmOutcome :=
      { assignment := evaluated.assignment, agentResult := evaluated.agentResult,
        evaluatedCandidate := none, archiveOutcome := none }
    outcome.check
    return (outcome, archive, graveyard)

/-! ## The manager -/

structure SwarmManager where
  config : SwarmConfig
  runId : String
  budget : BudgetLedger
  archive : QDArchive
  graveyard : SharedGraveyard
  lineage : LineageTracker
  notes : NoteStore
  agentCycles : String → Option ℕ
  /-- The registered candidates, in the order of their registration. -/
  candidateSnapshots : List WorkspaceSnapshot
  initialCandidateId : Option String
  state : SwarmState

/-- A result on its way to the manager, with the services that evaluate it and the readings of
the wall clock while it is applied. Its values have passed their constructors. -/
structure Delivery where
  assignment : SwarmAssignment
  result : SwarmAgentResult
  checks : CandidateChecks
  appliedAt : String
  reducedAt : String
  recordedAt : String
  authoredAt : String
  assignment_checked : assignment.check = .ok ()
  result_checked : result.check = .ok ()
  proposal_checked : result.proposal.check = .ok ()
  child_valid : ∀ child ∈ result.proposal.child, child.errors = []

/-- An exception, and the manager it leaves behind. -/
structure Raised where
  message : String
  manager : SwarmManager

/-- Raise from a manager what a step raises. -/
def raising {α : Type} (m : SwarmManager) (x : Except String α) : Except Raised α :=
  x.mapError (⟨·, m⟩)

/-- The manager after a step that may have raised. -/
def left : Except Raised SwarmManager → SwarmManager
  | .ok m => m
  | .error raised => raised.manager

namespace SwarmManager

/-- The agents of a fresh run. -/
def initialAgents (count : ℕ) (modelOf : ℕ → String) : List SwarmAgentState :=
  (List.range count).map fun i =>
    { agentId := s!"agent-{i}", model := if modelOf i = "" then "unknown" else modelOf i,
      status := .active, worktreeBranch := s!"coral/agent-{i}" }

/-- A fresh run: the baseline is registered and the agents are installed. -/
def start (config : SwarmConfig) (runId : String) (baseline : Model WorkspaceSnapshot.errors)
    (count : ℕ) (modelOf : ℕ → String) : Except String SwarmManager := do
  let agents ← (initialAgents count modelOf).mapM
    (construct SwarmAgentState.errors "SwarmAgentState")
  let pivotState : PivotState := { agentStates := agents.map fun agent => { agentId := agent.agentId } }
  pivotState.check
  let state : SwarmState :=
    { runId, totalEvaluations := 0, bestCandidateId := none, bestScore := none,
      agentStates := agents, recentScores := [], recentDescriptors := [], pivotState,
      stopped := false, stopReason := none }
  state.check
  return {
    config, runId
    budget :=
      { maxCostUsd := config.maxCostUsd, evalBudgetUsd := config.evalBudgetUsd,
        windDownThreshold := config.windDownThreshold, finalThreshold := config.finalThreshold }
    archive := { nCentroids := config.nCentroids }
    graveyard := Deque.empty maxSize IndexedEntry
    lineage := {}
    notes := Deque.empty maxSize SwarmNote
    agentCycles := fun _ => none
    candidateSnapshots := [baseline.val]
    initialCandidateId := some baseline.val.candidateId
    state }

/-- The part of `next_assignment` that changes the manager. -/
def nextAssignment (m : SwarmManager) (agentId : String) : SwarmManager :=
  { m with agentCycles :=
      Function.update m.agentCycles agentId (some ((m.agentCycles agentId).getD 0 + 1)) }

/-- The registered snapshot of a candidate. -/
def snapshotOf (m : SwarmManager) (candidateId : String) : Option WorkspaceSnapshot :=
  Table.lookup WorkspaceSnapshot.candidateId candidateId m.candidateSnapshots

/-- The cycle of an agent; an agent without an assignment is a missing key. -/
def cycleOf (m : SwarmManager) (agentId : String) : Except String ℕ :=
  (m.agentCycles agentId).elim (.error s!"'{agentId}'") .ok

/-- `_agent_cost`. -/
def agentCost (result : SwarmAgentResult) : Except String ℚ≥0 :=
  result.agentUsage.totalCostUsd.elim
    (.error "swarm agent usage has unknown cost and cannot be applied to a USD budget") .ok

/-- The evaluation of a submitted child on a freshly planned batch. -/
def evaluateSubmitted (m : SwarmManager) (d : Delivery) : Except String SwarmEvaluation := do
  let cycle ← m.cycleOf d.assignment.agentId
  let batch ← d.checks.plan m.config.batchSize ((cycle : ℤ) - 1)
  evaluateAssignment d.assignment d.result batch d.checks m.runId cycle

/-- What the callback does before it takes the lock: the evaluation, and its cost. -/
def evaluate (m : SwarmManager) (d : Delivery) : Except String (SwarmEvaluation × ℚ≥0) := do
  let evaluated ← (if d.result.proposal.status = .submitted then m.evaluateSubmitted d
    else swarmEvaluation d.assignment d.result none none)
  let evalCost ← (evaluationCost evaluated).elim
    (.error "swarm host evaluation has unknown cost and cannot be applied to a USD budget") .ok
  return (evaluated, evalCost)

/-- Check the parent, and apply the evaluation to the archive and the graveyard. -/
def applyEvaluation (m : SwarmManager) (d : Delivery) (evaluated : SwarmEvaluation) :
    Except String (SwarmOutcome × SwarmManager) := do
  require (m.snapshotOf d.assignment.parent.candidateId = some d.assignment.parent)
    s!"assignment parent '{d.assignment.parent.candidateId}' is no longer available"
  let cycle ← m.cycleOf d.assignment.agentId
  let (outcome, archive, graveyard) ←
    applySwarmEvaluation ribs evaluated m.archive m.graveyard m.runId cycle d.appliedAt
  return (outcome, { m with archive, graveyard })

/-- Register an evaluated child and record the costs. -/
def recordCosts (m : SwarmManager) (outcome : SwarmOutcome) (agentCost evalCost : ℚ≥0) :
    SwarmManager :=
  match outcome.evaluatedCandidate with
  | none =>
    { m with budget := m.budget.recordAgentSpend outcome.assignment.agentId agentCost }
  | some child =>
    { m with
      candidateSnapshots :=
        Table.upsert WorkspaceSnapshot.candidateId child.snapshot m.candidateSnapshots
      budget := (m.budget.recordEvalSpend evalCost).recordAgentSpend outcome.assignment.agentId
        agentCost }

/-- Reduce the outcome into the next state. -/
def reduce (m : SwarmManager) (d : Delivery) (outcome : SwarmOutcome) :
    Except String SwarmManager := do
  let budget : BudgetSnapshot :=
    { maxCostUsd := m.budget.maxCostUsd, totalAgentSpend := m.budget.totalAgentSpend,
      evalBudgetUsd := m.budget.evalBudgetUsd, evalSpend := m.budget.evalSpend }
  budget.check
  let (state, _) ← nextSwarmState m.state outcome budget m.config d.reducedAt
  return { m with state }

/-- The lineage record of an inserted child. -/
def recordLineage (m : SwarmManager) (d : Delivery) (child : EvaluatedCandidate) :
    Except String SwarmManager := do
  let descriptor ← firstDescriptor child
  let parentEntry := m.archive.getEntryByCandidateId d.assignment.parent.candidateId
  let entry ← construct LineageRecord.errors "LineageRecord"
    { entryCandidateId := child.snapshot.candidateId
      parentCandidateId := some d.assignment.parent.candidateId
      sourceAgentId := d.assignment.agentId
      mutationType := "evolution_cycle"
      bdRegionTargeted := some descriptor
      surprise := parentEntry.any fun entry => LineageTracker.isSurprise entry.bd descriptor
      recordedAt := d.recordedAt }
  return { m with lineage := m.lineage.record entry }

/-- The narrative of an inserted child. -/
def attachNarrative (m : SwarmManager) (d : Delivery) (child : EvaluatedCandidate) :
    Except String SwarmManager := do
  let narrative ← construct LineageNarrative.errors "LineageNarrative"
    { entryCandidateId := child.snapshot.candidateId
      agentReasoning := d.result.proposal.reasoning
      investigationContext := s!"Assignment {d.assignment.assignmentId}." }
  return { m with lineage := m.lineage.attachNarrative narrative }

/-- The note about an evaluated child, every so many evaluations. -/
def reflect (m : SwarmManager) (d : Delivery) (child : EvaluatedCandidate) :
    Except String SwarmManager := do
  let total := m.state.totalEvaluations
  if 0 < m.config.reflectEvery ∧ total % m.config.reflectEvery = 0 then
    let descriptor ← firstDescriptor child
    let note ← construct SwarmNote.errors "SwarmNote"
      { noteId := s!"{d.assignment.agentId}-reflect-{total}"
        agentId := d.assignment.agentId
        authoredAt := d.authoredAt
        bdRegion := some descriptor
        title := s!"Eval {total} reflection"
        content := s!"Host evaluation recorded for candidate {child.snapshot.candidateId}."
        tags := ["reflect"] }
    return { m with notes := NoteStore.insert m.notes note }
  else return m

/-- What is written about an evaluated child once the state is reduced. -/
def describeChild (m : SwarmManager) (d : Delivery) (outcome : SwarmOutcome)
    (child : EvaluatedCandidate) : Except Raised SwarmManager :=
  if outcome.archiveOutcome.any (·.added) then do
    let recorded ← raising m (m.recordLineage d child)
    let narrated ← raising recorded (recorded.attachNarrative d child)
    raising narrated (narrated.reflect d child)
  else raising m (m.reflect d child)

/-- `_on_result`. -/
def onResult (m : SwarmManager) (d : Delivery) : Except Raised SwarmManager := do
  let cost ← raising m (agentCost d.result)
  let (evaluated, evalCost) ← raising m (m.evaluate d)
  let (outcome, applied) ← raising m (m.applyEvaluation ribs d evaluated)
  let charged := applied.recordCosts outcome cost evalCost
  let reduced ← raising charged (charged.reduce d outcome)
  outcome.evaluatedCandidate.elim (.ok reduced) (reduced.describeChild d outcome)

end SwarmManager

/-! ## Runs -/

inductive SwarmEvent
  | nextAssignment (agentId : String)
  | result (d : Delivery)

/-- Runs of a manager: agents request assignments and deliver results, in any order. -/
def swarmMachine : Machine SwarmManager SwarmEvent where
  step m
    | .nextAssignment agentId => m.nextAssignment agentId
    | .result d => left (m.onResult ribs d)

/-! ## What the parts of the callback do -/

section Spec

variable {ribs} {m : SwarmManager} {d : Delivery} {evaluated : SwarmEvaluation}
  {child : EvaluatedCandidate}

@[simp] lemma raising_eq_ok {α : Type} {x : Except String α} {a : α} :
    raising m x = .ok a ↔ x = .ok a := by
  cases x <;> simp [raising, Except.mapError]

lemma left_raising_bind {α : Type} {P : SwarmManager → Prop} {x : Except String α}
    {f : α → Except Raised SwarmManager} (hm : P m) (hf : ∀ a, x = .ok a → P (left (f a))) :
    P (left (raising m x >>= f)) := by
  cases x with
  | error text => exact hm
  | ok a => exact hf a rfl

lemma left_raising {P : SwarmManager → Prop} {x : Except String SwarmManager} (hm : P m)
    (hx : ∀ m', x = .ok m' → P m') : P (left (raising m x)) := by
  cases x with
  | error text => exact hm
  | ok a => exact hx a rfl

lemma swarmEvaluation_eq_ok {assignment : SwarmAssignment} {agentResult : SwarmAgentResult}
    {parent candidate : Option EvaluatedCandidate} :
    swarmEvaluation assignment agentResult parent candidate = .ok evaluated ↔
      evaluated = ⟨assignment, agentResult, parent, candidate⟩ ∧ evaluated.check = .ok () := by
  simp only [swarmEvaluation, unit_bind_eq_ok, pure_eq_ok]
  constructor
  · rintro ⟨hcheck, rfl⟩
    exact ⟨rfl, hcheck⟩
  · rintro ⟨rfl, hcheck⟩
    exact ⟨hcheck, rfl⟩

/-- What an evaluation of a delivery consists of. -/
structure Delivery.Evaluates (d : Delivery) (evaluated : SwarmEvaluation) : Prop where
  assignment : evaluated.assignment = d.assignment
  agentResult : evaluated.agentResult = d.result
  identity : d.result.agentId = d.assignment.agentId ∧
    d.result.assignmentId = d.assignment.assignmentId
  child : ∀ child, evaluated.child = some child →
    d.result.proposal.child = some child.snapshot ∧ child.Sound
  parent : ∀ child, evaluated.child = some child →
    ∃ parent, evaluated.parent = some parent ∧ parent.Sound

lemma SwarmEvaluation.identity_of_check (h : evaluated.check = .ok ()) :
    evaluated.agentResult.agentId = evaluated.assignment.agentId ∧
      evaluated.agentResult.assignmentId = evaluated.assignment.assignmentId := by
  simp only [SwarmEvaluation.check, require_bind_eq_ok] at h
  exact ⟨h.1.symm, h.2.1.symm⟩

lemma evaluateAssignment_evaluates {batch : CandidateEvaluationBatch} {cycle : ℕ}
    (h : evaluateAssignment d.assignment d.result batch d.checks m.runId cycle = .ok evaluated) :
    d.Evaluates evaluated := by
  simp only [evaluateAssignment, unit_bind_eq_ok] at h
  obtain ⟨-, h⟩ := h
  cases hchild : d.result.proposal.child with
  | none =>
    simp only [hchild] at h
    obtain ⟨rfl, hcheck⟩ := swarmEvaluation_eq_ok.mp h
    exact ⟨rfl, rfl, SwarmEvaluation.identity_of_check hcheck, by simp, by simp⟩
  | some snapshot =>
    simp only [hchild, bind_eq_ok] at h
    obtain ⟨parent, hparent, child, hassess, _, -, h⟩ := h
    obtain ⟨rfl, hcheck⟩ := swarmEvaluation_eq_ok.mp h
    obtain ⟨hsnapshot, hsound⟩ := CandidateChecks.assess_eq_ok hassess
    refine ⟨rfl, rfl, SwarmEvaluation.identity_of_check hcheck, ?_, ?_⟩
    · rintro _ ⟨⟩
      exact ⟨hchild.trans (congrArg some hsnapshot.symm), hsound⟩
    · rintro _ ⟨⟩
      exact ⟨parent, rfl, (CandidateChecks.assess_eq_ok hparent).2⟩

lemma evaluate_evaluates {evalCost : ℚ≥0} (h : m.evaluate d = .ok (evaluated, evalCost)) :
    d.Evaluates evaluated := by
  simp only [SwarmManager.evaluate, bind_eq_ok, pure_eq_ok, Prod.mk.injEq] at h
  obtain ⟨evaluated', h, _, -, rfl, -⟩ := h
  split_ifs at h with hstatus
  · simp only [SwarmManager.evaluateSubmitted, bind_eq_ok] at h
    obtain ⟨cycle, -, batch, -, h⟩ := h
    exact evaluateAssignment_evaluates h
  · obtain ⟨rfl, hcheck⟩ := swarmEvaluation_eq_ok.mp h
    exact ⟨rfl, rfl, SwarmEvaluation.identity_of_check hcheck, by simp, by simp⟩

/-- A valid child takes the cell of an entry. -/
def Displaces (ribs : CVTArchive) (archive : QDArchive) (child : EvaluatedCandidate)
    (entry : ArchiveEntry) : Prop :=
  child.assessment.valid = true ∧ archive.Takes ribs child.descriptors entry

/-- A valid child enters the archive. -/
def EntersArchive (ribs : CVTArchive) (archive : QDArchive) (child : EvaluatedCandidate) : Prop :=
  child.assessment.valid = true ∧ archive.Enters ribs child.descriptors

instance (archive : QDArchive) (child : EvaluatedCandidate) (entry : ArchiveEntry) :
    Decidable (Displaces ribs archive child entry) :=
  inferInstanceAs (Decidable (_ ∧ _))

instance (archive : QDArchive) (child : EvaluatedCandidate) :
    Decidable (EntersArchive ribs archive child) :=
  inferInstanceAs (Decidable (_ ∧ _))

/-- What the insertion of a child does to the archive. -/
structure ArchivesChild (ribs : CVTArchive) (child : EvaluatedCandidate)
    (archive archive' : QDArchive) (outcome : Option ArchiveBatchOutcome) : Prop where
  placed : archive'.WellPlaced ribs
  mem : ∀ entry ∈ archive'.entries,
    entry.snapshot = child.snapshot ∨ entry ∈ archive.entries ∧ ¬ Displaces ribs archive child entry
  keeps : ∀ entry ∈ archive.entries, ¬ Displaces ribs archive child entry →
    entry ∈ archive'.entries
  added : outcome.any (·.added) = true ↔ EntersArchive ribs archive child
  enters : EntersArchive ribs archive child → ∃ entry ∈ archive'.entries,
    entry.snapshot = child.snapshot

lemma archiveChild_archives {archive archive' : QDArchive} {runId : String}
    {outcome : Option ArchiveBatchOutcome} (hplaced : archive.WellPlaced ribs)
    (h : archiveChild ribs child archive runId = .ok (outcome, archive')) :
    ArchivesChild ribs child archive archive' outcome := by
  rw [archiveChild] at h
  by_cases hvalid : child.assessment.valid = true
  · simp only [hvalid, if_true, bind_eq_ok, pure_eq_ok, Prod.mk.injEq] at h
    obtain ⟨bds, hbds, _, -, rfl, rfl⟩ := h
    obtain ⟨hdescriptors, hzip⟩ := descriptors_of_mapM hbds
    have hadded : ((archive.insertAll ribs child.snapshot runId
        (bds.zip child.observations)).1.any (·.added)) = true ↔
        EntersArchive ribs archive child := by
      rw [QDArchive.insertAll_added_iff, hzip, EntersArchive, hdescriptors]
      simp [hvalid]
    refine ⟨hplaced.insertAll, fun entry hentry => ?_, fun entry hentry hnot => ?_, hadded,
      fun henters => QDArchive.exists_mem_insertAll (hadded.mpr henters)⟩
    · by_cases hsnapshot : entry.snapshot = child.snapshot
      · exact .inl hsnapshot
      · obtain ⟨hold, hnot⟩ := QDArchive.mem_insertAll hplaced hentry hsnapshot
        rw [hzip] at hnot
        exact .inr ⟨hold, fun hd => hnot (hdescriptors ▸ hd.2)⟩
    · refine QDArchive.mem_insertAll_of_not_takes hplaced hentry ?_
      rw [hzip]
      exact fun ht => hnot ⟨hvalid, hdescriptors.symm ▸ ht⟩
  · simp only [hvalid, Bool.false_eq_true, if_false, pure_eq_ok, Prod.mk.injEq] at h
    obtain ⟨rfl, rfl⟩ := h
    exact ⟨hplaced, fun entry hentry => .inr ⟨hentry, fun hd => hvalid hd.1⟩,
      fun entry hentry _ => hentry, by simp [EntersArchive, hvalid], fun he => absurd he.1 hvalid⟩

lemma rejectionReason_eq_none {outcome : Option ArchiveBatchOutcome} {archive : QDArchive}
    (hadded : outcome.any (·.added) = true ↔ EntersArchive ribs archive child) :
    rejectionReason child outcome = none ↔ EntersArchive ribs archive child := by
  rw [rejectionReason]
  by_cases hvalid : child.assessment.valid = false
  · rw [if_pos hvalid]
    simp [EntersArchive, hvalid]
  · rw [if_neg hvalid]
    by_cases hany : outcome.any (·.added) = true
    · rw [if_pos hany]
      simp [hadded.mp hany]
    · rw [if_neg hany]
      simp [← hadded, hany]

lemma applyEvaluation_none {outcome : SwarmOutcome} {applied : SwarmManager}
    (hchild : evaluated.child = none)
    (h : m.applyEvaluation ribs d evaluated = .ok (outcome, applied)) :
    outcome = ⟨evaluated.assignment, evaluated.agentResult, none, none⟩ ∧ applied = m := by
  simp only [SwarmManager.applyEvaluation, applySwarmEvaluation, hchild, bind_eq_ok,
    pure_eq_ok, Prod.mk.injEq, Prod.exists] at h
  obtain ⟨_, -, cycle, -, outcome', archive, graveyard, ⟨_, -, h⟩, rfl, rfl⟩ := h
  cases hparent : evaluated.parent with
  | none | some parent =>
    simp only [hparent, bind_eq_ok, pure_eq_ok, Prod.mk.injEq] at h
    obtain ⟨_, -, rfl, rfl, rfl⟩ := h
    exact ⟨rfl, rfl⟩

/-- The entry under which a rejected child is buried. -/
def BuriedAs (child : EvaluatedCandidate) (item : IndexedEntry) : Prop :=
  item.entry.candidateId = child.snapshot.candidateId ∧
    item.entry.rejectedSnapshot = some child.snapshot ∧
    item.entry.childAssessment = some child.assessment

/-- What applying a delivery with an evaluated child does. -/
structure AppliesChild (ribs : CVTArchive) (m : SwarmManager) (d : Delivery)
    (child : EvaluatedCandidate) (outcome : SwarmOutcome) (applied : SwarmManager) : Prop where
  outcome_eq : outcome = ⟨d.assignment, d.result, some child, outcome.archiveOutcome⟩
  manager : applied = { m with archive := applied.archive, graveyard := applied.graveyard }
  parent : m.snapshotOf d.assignment.parent.candidateId = some d.assignment.parent
  archives : ArchivesChild ribs child m.archive applied.archive outcome.archiveOutcome
  graveyard : EntersArchive ribs m.archive child ∧ applied.graveyard = m.graveyard ∨
    ¬ EntersArchive ribs m.archive child ∧ ∃ item, BuriedAs child item ∧
      (∀ parent ∈ item.entry.parentAssessment, parent.errors = []) ∧
      applied.graveyard = m.graveyard.append item

lemma applyEvaluation_applies {outcome : SwarmOutcome} {applied : SwarmManager}
    (hplaced : m.archive.WellPlaced ribs) (hevaluates : d.Evaluates evaluated)
    (hchild : evaluated.child = some child)
    (h : m.applyEvaluation ribs d evaluated = .ok (outcome, applied)) :
    AppliesChild ribs m d child outcome applied := by
  obtain ⟨parent, hparent, hsound⟩ := hevaluates.parent child hchild
  simp only [SwarmManager.applyEvaluation, applySwarmEvaluation, hchild, hparent, bind_eq_ok,
    pure_eq_ok, require_eq_ok, Prod.mk.injEq, Prod.exists, exists_const] at h
  obtain ⟨hregistered, cycle, -, outcome', archive, graveyard, ⟨_, -, archived, archive',
    harchive, graveyard', hgraveyard, _, -, rfl, rfl, rfl⟩, rfl, rfl⟩ := h
  have harchives := archiveChild_archives hplaced harchive
  refine ⟨by rw [hevaluates.assignment, hevaluates.agentResult], rfl, hregistered, harchives, ?_⟩
  cases hreason : rejectionReason child archived with
  | none =>
    rw [hreason, Option.elim_none, Except.ok.injEq] at hgraveyard
    exact .inl ⟨(rejectionReason_eq_none harchives.added).mp hreason, hgraveyard.symm⟩
  | some reason =>
    have hnot : ¬ EntersArchive ribs m.archive child := by
      rw [← rejectionReason_eq_none harchives.added, hreason]
      exact Option.some_ne_none _
    simp only [hreason, Option.elim_some, graveyardEntry, bind_eq_ok, require_eq_ok, pure_eq_ok,
      exists_const] at hgraveyard
    obtain ⟨entry, ⟨-, rfl⟩, bd, -, rfl⟩ := hgraveyard
    refine .inr ⟨hnot, _, ⟨rfl, rfl, rfl⟩, ?_, rfl⟩
    rintro _ ⟨⟩
    exact hsound.assessment

end Spec

end AecBench.Evolution.Swarm
