import AecBench.Evolution.Gate
import AecBench.Evolution.Swarm.Assignments
import AecBench.Evolution.Variation

/-!
# Evolution runs

A run evaluates the baseline of a workspace and then performs cycles: a parent is selected, a
proposer varies it, the child is evaluated on the batch of its parent and passes the gate or,
in a quality-diversity run, the archive. The archive, the graveyard and the number of the last
cycle are kept between runs.

## Main definitions

* `EvolutionRun` — a run between two cycles.
* `executeEvolutionCycle`, `EvolutionRun.cycleWith` — one cycle, and one round of the loop.
* `EvolutionRun.start`, `EvolutionRun.save` — from the files of a workspace, and back to them.

## Main results

* `cycles_of_cycleWith` — what one round of the loop does to a run.

## Implementation notes

* The ranking of cells and the choice of a mutation strategy are services of a cycle, so their
  statistics are left out.
* Applying and committing an accepted child is one service, which may raise. The trials of a cycle
  are written to files that no run reads.
-/

namespace AecBench.Evolution

open Validation
open Swarm (ArchiveBatchOutcome GraveyardEntry archiveView)

/-! ## Graveyard and snapshots -/

/-- The size of the graveyard. -/
def graveyardSize : ℕ := 50

abbrev MutationGraveyard := Deque graveyardSize GraveyardEntry

/-- The rejected material of an entry, when it has the candidate's own name. -/
def rescuable (entry : GraveyardEntry) : Option WorkspaceSnapshot :=
  entry.rejectedSnapshot.filter (·.candidateId = entry.candidateId)

/-- `_has_resolvable_graveyard`. -/
def hasResolvableGraveyard (graveyard : MutationGraveyard) : Bool :=
  graveyard.items.any fun entry => (rescuable entry).isSome

/-- `snapshots.setdefault`. -/
def setDefault (snapshots : List WorkspaceSnapshot) (snapshot : WorkspaceSnapshot) :
    List WorkspaceSnapshot :=
  if (Table.lookup WorkspaceSnapshot.candidateId snapshot.candidateId snapshots).isSome then snapshots
  else snapshots ++ [snapshot]

/-- `_add_archive_snapshots`. -/
def addArchiveSnapshots (archive : QDArchive) (snapshots : List WorkspaceSnapshot) :
    Except String (List WorkspaceSnapshot) := do
  let entries ← archiveView archive
  return (entries.map (·.snapshot)).foldl setDefault snapshots

/-- `_add_graveyard_snapshots`: the latest entries come first. -/
def addGraveyardSnapshots (graveyard : MutationGraveyard) (snapshots : List WorkspaceSnapshot) :
    List WorkspaceSnapshot :=
  (graveyard.items.reverse.filterMap rescuable).foldl setDefault snapshots

/-! ## Selection -/

structure ResolvedSelection where
  plan : SelectionPlan
  parent : WorkspaceSnapshot
  inspirations : List WorkspaceSnapshot

/-- What the constructor of a resolved selection checks. -/
def ResolvedSelection.check (resolved : ResolvedSelection) : Except String Unit := do
  require (resolved.parent.candidateId = resolved.plan.parentCandidateId)
    "resolved parent must match the selection parent_candidate_id"
  require (resolved.inspirations.map (·.candidateId) = resolved.plan.inspirationCandidateIds)
    "resolved inspirations must match the selection candidate IDs exactly"

/-- The snapshot of a selected candidate. -/
def resolveCandidate (snapshots : List WorkspaceSnapshot) (candidateId : String) :
    Except String WorkspaceSnapshot :=
  (Table.lookup WorkspaceSnapshot.candidateId candidateId snapshots).elim
    (.error s!"selected candidate {Text.repr candidateId} has no available snapshot") .ok

/-- `_resolve_selection`. -/
def resolveSelection (plan : SelectionPlan) (snapshots : List WorkspaceSnapshot) :
    Except String ResolvedSelection := do
  let parent ← resolveCandidate snapshots plan.parentCandidateId
  let inspirations ← plan.inspirationCandidateIds.mapM (resolveCandidate snapshots)
  let resolved : ResolvedSelection := { plan, parent, inspirations }
  resolved.check
  return resolved

/-- What a cycle uses from outside: the evaluation, the ranking of cells and the choice of a
strategy, the archive agent, the proposer, and the canonical workspace. -/
structure CycleServices where
  checks : CandidateChecks
  /-- `select_mutation_strategy`, from whether the graveyard has material to rescue. -/
  selectMutationStrategy : Bool → MutationStrategy
  /-- `shortlist_cells`, from the occupied cells. -/
  shortlistCells : List ℕ → List ℕ
  archiveAgent : List String → MutationStrategy → Except String SelectionPlan
  propose : CandidateProposalRequest → String → Except String CandidateProposal
  commit : WorkspaceSnapshot → Except String Unit
  now : String

/-- The candidate in a shortlisted cell; a cell without an entry is a missing key. -/
def cellCandidate (entries : List ArchiveEntry) (cell : ℕ) : Except String String :=
  (Table.lookup ArchiveEntry.cellIndex cell entries).elim (.error s!"{cell}")
    fun entry => .ok entry.snapshot.candidateId

/-- `_select_qd_plan`. -/
def selectQdPlan (config : EvolutionConfig) (services : CycleServices) (archive : QDArchive)
    (graveyard : MutationGraveyard) : Except String SelectionPlan := do
  let strategy := services.selectMutationStrategy (hasResolvableGraveyard graveyard)
  let entries ← archiveView archive
  let ids ← (services.shortlistCells (entries.map (·.cellIndex))).mapM (cellCandidate entries)
  let shortlist := ids.eraseDups
  require (shortlist ≠ []) "QD selection requires at least one occupied archive cell"
  let plan ← services.archiveAgent shortlist strategy
  plan.check
  require (plan.strategy = strategy) "archive agent changed the host-selected mutation strategy"
  require (plan.parentCandidateId ∈ shortlist)
    "archive agent selected parent outside the allowed candidate set"
  let rescued := if strategy = .graveyardRescue then graveyard.items.filterMap rescuable else []
  require (plan.inspirationCandidateIds.length ≤ config.qdInspirationLimit)
    "archive agent returned too many inspirations"
  require (∀ id ∈ plan.inspirationCandidateIds, id ∈ shortlist ++ rescued.map (·.candidateId))
    "archive agent returned an unknown inspiration ID"
  return plan

/-- The plan of a hill climb: improve the best candidate. -/
def hillClimbPlan (state : EvolutionState) : Except String SelectionPlan := do
  let plan : SelectionPlan :=
    { parentCandidateId := state.bestCandidateId
      inspirationCandidateIds := []
      strategy := .conservative
      goal := "Improve the best evaluated candidate."
      reasoning := s!"Explicit state selected best candidate {state.bestCandidateId}." }
  plan.check
  return plan

/-! ## Runs -/

/-- The default name of the child of a cycle. -/
def defaultCandidateId (runId : String) (cycle : ℕ) : String := s!"{runId}:{cycle}"

structure RunOptions where
  config : EvolutionConfig
  runId : String
  makeCandidateId : String → ℕ → String := defaultCandidateId

/-- A run between two cycles. -/
structure EvolutionRun where
  state : EvolutionState
  /-- The number of the last cycle, also of those of earlier runs on the same files. -/
  cycle : ℕ
  history : List CycleOutcome
  /-- The candidates that a selection can resolve. -/
  snapshots : List WorkspaceSnapshot
  graveyard : MutationGraveyard
  /-- The archive of a quality-diversity run. -/
  archive : Option QDArchive
  memory : List AVOMemoryEntry
  baselineBatch : CandidateEvaluationBatch
  baseline : EvaluatedCandidate

/-! ## One cycle -/

/-- `compute_graduated_scope`. -/
def computeGraduatedScope (batchScore : ℚ) (improving : Bool) : GraduatedScope :=
  if 90 / 100 ≤ batchScore then (if improving then .minimal else .skip)
  else if 80 / 100 ≤ batchScore then .targeted
  else .comprehensive

/-- The batch of a cycle; the first cycle uses the batch of the baseline. -/
def planBatch (options : RunOptions) (services : CycleServices) (run : EvolutionRun) (cycle : ℕ) :
    Except String CandidateEvaluationBatch :=
  if cycle = 1 then .ok run.baselineBatch
  else services.checks.plan options.config.batchSize ((cycle : ℤ) - 1)

/-- The evaluated parent; the first cycle uses the evaluation of the baseline. -/
def evaluateParent (services : CycleServices) (run : EvolutionRun) (cycle : ℕ)
    (parent : WorkspaceSnapshot) (batch : CandidateEvaluationBatch) :
    Except String EvaluatedCandidate :=
  if cycle = 1 ∧ parent.candidateId = "baseline" ∧
      run.baseline.snapshot.candidateId = parent.candidateId then .ok run.baseline
  else services.checks.assess parent batch

/-- Ask the proposer for a child, and evaluate the one it submits. -/
def proposeChild (options : RunOptions) (services : CycleServices) (run : EvolutionRun)
    (cycle : ℕ) (resolved : ResolvedSelection) (parent : EvaluatedCandidate)
    (batch : CandidateEvaluationBatch) :
    Except String (CandidateProposal × Option EvaluatedCandidate) := do
  let score := parent.assessment.batchScore
  let request : CandidateProposalRequest :=
    { runId := options.runId
      selection := resolved.plan
      parent
      inspirations := resolved.inspirations
      scope := computeGraduatedScope score (run.state.bestScore < score)
      cycle
      memory := run.memory }
  request.check
  let proposal ← services.propose request (options.makeCandidateId options.runId cycle)
  proposal.check
  if proposal.status = .submitted then
    let snapshot ← proposal.child.elim
      (.error "submitted proposal did not provide a child snapshot") .ok
    let child ← services.checks.assess snapshot batch
    return (proposal, some child)
  else return (proposal, none)

variable (ribs : CVTArchive)

/-- Insert a candidate into the archive under each of its descriptors. -/
def insertCandidateDescriptors (archive : QDArchive) (candidate : EvaluatedCandidate)
    (runId : String) : Except String (ArchiveBatchOutcome × QDArchive) := do
  let descriptors ← candidate.observations.mapM extractBehaviourDescriptor
  let (insertions, archive) :=
    archive.insertAll ribs candidate.snapshot runId (descriptors.zip candidate.observations)
  let outcome : ArchiveBatchOutcome :=
    { candidateId := candidate.snapshot.candidateId, insertions }
  outcome.check
  return (outcome, archive)

/-- The decision of a quality-diversity cycle about a valid child: the archive overrules the
gate. A child that the archive refuses keeps the counter that the gate has computed. -/
def overruleGate (config : EvolutionConfig) (state : EvolutionState) (child : EvaluatedCandidate)
    (decision : GateResult) (added : Bool) : Except String GateResult :=
  if added then do
    let score ← assessmentScore child.assessment config.structuralWeight
    let globalImproved : Bool := state.bestScore + config.improvementThreshold < score
    gateResult
      { decision with
        decision := .accepted
        reason := "candidate entered or improved a quality-diversity archive cell"
        effectiveScore := some score
        improved := globalImproved
        cyclesWithoutImprovement :=
          some (if globalImproved then 0 else state.cyclesWithoutImprovement + 1) }
  else
    gateResult
      { decision with
        decision := .rejected
        reason := "candidate did not enter or improve a quality-diversity archive cell" }

/-- The final decision of a cycle, and the archive after it. -/
def decideChild (options : RunOptions) (run : EvolutionRun) (parent : EvaluatedCandidate)
    (proposal : CandidateProposal) (child : Option EvaluatedCandidate) :
    Except String (GateResult × Option QDArchive) := do
  let decision ← gateCandidate parent child proposal run.state options.config
  match run.archive, child.filter (·.assessment.valid) with
  | some archive, some child =>
    let (outcome, archive) ← insertCandidateDescriptors ribs archive child options.runId
    let decision ← overruleGate options.config run.state child decision outcome.added
    return (decision, some archive)
  | archive, _ => return (decision, archive)

/-- `_graveyard_entry`. -/
def buriedEntry (outcome : CycleOutcome) (child : EvaluatedCandidate) (runId now : String) :
    GraveyardEntry where
  cycle := outcome.cycle
  strategy := outcome.selection.strategy.value
  mutationDescription := outcome.proposal.reasoning
  scoreBefore := outcome.parent.assessment.batchScore
  scoreAfter := child.assessment.batchScore
  candidateId := child.snapshot.candidateId
  failureReason := outcome.decision.reason
  parentCandidateId := some outcome.parent.snapshot.candidateId
  rejectedSnapshot := some child.snapshot
  parentAssessment := some outcome.parent.assessment
  childAssessment := some child.assessment
  mutation := outcome.proposal.mutation
  runId := some runId
  timestamp := some now

/-- What a decided cycle does to the workspace, the snapshots and the graveyard. -/
def applyOutcome (options : RunOptions) (services : CycleServices) (run : EvolutionRun)
    (outcome : CycleOutcome) : Except String EvolutionRun :=
  match outcome.decision.decision, outcome.child with
  | .accepted, some child => do
    services.commit child.snapshot
    return { run with
      snapshots := Table.upsert WorkspaceSnapshot.candidateId child.snapshot run.snapshots }
  | .rejected, some child =>
    .ok { run with
      graveyard := run.graveyard.append (buriedEntry outcome child options.runId services.now) }
  | _, _ => .ok run

/-- `_execute_evolution_cycle`: the run after a cycle with a resolved selection. -/
def executeEvolutionCycle (options : RunOptions) (services : CycleServices) (run : EvolutionRun)
    (cycle : ℕ) (resolved : ResolvedSelection) : Except String EvolutionRun := do
  let batch ← planBatch options services run cycle
  let parent ← evaluateParent services run cycle resolved.parent batch
  let (proposal, child) ← proposeChild options services run cycle resolved parent batch
  let (decision, archive) ← decideChild ribs options run parent proposal child
  let state ← nextEvolutionState run.state parent child decision
  let outcome : CycleOutcome :=
    { cycle, selection := resolved.plan, parent, proposal, child, decision
      activeCandidateIdAfter := state.activeCandidateId
      bestCandidateIdAfter := state.bestCandidateId }
  outcome.check
  let run ← applyOutcome options services run outcome
  return { run with
    state, cycle, archive, history := run.history ++ [outcome], memory := proposal.memory }

/-! ## The loop -/

/-! ## What a cycle does -/

section Specs

variable {ribs} {options : RunOptions} {run : EvolutionRun}
  {parent : EvaluatedCandidate} {proposal : CandidateProposal}
  {child : Option EvaluatedCandidate} {decision : GateResult}

/-- How the archive overrules the gate about a valid child, which it has added or not. -/
inductive Overrules (config : EvolutionConfig) (state : EvolutionState)
    (child : EvaluatedCandidate) (gated decision : GateResult) : Bool → Prop
  | added (score : ℚ)
      (scored : assessmentScore child.assessment config.structuralWeight = .ok score)
      (decided : decision.decision = .accepted) (effective : decision.effectiveScore = some score)
      (improved : decision.improved = true ↔ state.bestScore + config.improvementThreshold < score)
      (counter : decision.cyclesWithoutImprovement =
        some (if decision.improved then 0 else state.cyclesWithoutImprovement + 1)) :
      Overrules config state child gated decision true
  /-- The archive changes only the decision. -/
  | refused (decided : decision.decision = .rejected)
      (effective : decision.effectiveScore = gated.effectiveScore)
      (improved : decision.improved = gated.improved)
      (counter : decision.cyclesWithoutImprovement = gated.cyclesWithoutImprovement) :
      Overrules config state child gated decision false

lemma overrules_of_overruleGate {config : EvolutionConfig} {state : EvolutionState}
    {c : EvaluatedCandidate} {gated : GateResult} {added : Bool}
    (h : overruleGate config state c gated added = .ok decision) :
    Overrules config state c gated decision added := by
  cases added with
  | true =>
    simp only [overruleGate, if_true, bind_eq_ok, gateResult_eq_ok] at h
    obtain ⟨score, hscore, -, rfl⟩ := h
    refine .added score hscore rfl rfl decide_eq_true_iff ?_
    simp only [decide_eq_true_eq]
  | false =>
    simp only [overruleGate, Bool.false_eq_true, if_false, gateResult_eq_ok] at h
    obtain ⟨-, rfl⟩ := h
    exact .refused rfl rfl rfl rfl

/-- What is decided about a child, from the state and the archive before: what the gate decides,
or, about a valid child in a quality-diversity run, what the archive makes of it. -/
inductive Decides (ribs : CVTArchive) (options : RunOptions) (state : EvolutionState)
    (before : Option QDArchive) (parent : EvaluatedCandidate) (proposal : CandidateProposal)
    (child : Option EvaluatedCandidate) (decision : GateResult) (after : Option QDArchive) : Prop
  | gate (gated : Gates options.config state parent proposal child decision)
      (kept : after = before)
      (apart : before = none ∨ ∀ c ∈ child, c.assessment.valid = false)
  | archive {gate : GateResult} {archive archive' : QDArchive} {c : EvaluatedCandidate}
      {outcome : ArchiveBatchOutcome}
      (gated : Gates options.config state parent proposal child gate)
      (was : before = some archive) (evaluated : child = some c)
      (valid : c.assessment.valid = true)
      (inserted : insertCandidateDescriptors ribs archive c options.runId = .ok (outcome, archive'))
      (overruled : Overrules options.config state c gate decision outcome.added)
      (becomes : after = some archive')

/-- **How a child is decided about.** -/
theorem decides_of_decideChild {archive : Option QDArchive}
    (h : decideChild ribs options run parent proposal child = .ok (decision, archive)) :
    Decides ribs options run.state run.archive parent proposal child decision archive := by
  simp only [decideChild, bind_eq_ok] at h
  obtain ⟨gate, hgate, h⟩ := h
  have hgates := gates_of_gateCandidate hgate
  obtain hnone | ⟨before, hbefore⟩ := Option.eq_none_or_eq_some run.archive
  · rw [hnone] at h
    obtain ⟨rfl, rfl⟩ := Prod.mk.inj (pure_eq_ok.mp h)
    exact .gate hgates hnone.symm (.inl hnone)
  obtain hinvalid | ⟨c, hc⟩ := Option.eq_none_or_eq_some (child.filter (·.assessment.valid))
  · rw [hbefore, hinvalid] at h
    obtain ⟨rfl, rfl⟩ := Prod.mk.inj (pure_eq_ok.mp h)
    refine .gate hgates hbefore.symm (.inr fun c hchild => ?_)
    rw [Option.filter_eq_none_iff] at hinvalid
    exact Bool.eq_false_of_not_eq_true (hinvalid c hchild)
  · rw [hbefore, hc] at h
    simp only [bind_eq_ok, pure_eq_ok, Prod.exists] at h
    obtain ⟨outcome, after, hinsert, decision', hoverrule, heq⟩ := h
    obtain ⟨rfl, rfl⟩ := Prod.mk.inj heq
    obtain ⟨hchild, hvalid⟩ := Option.filter_eq_some_iff.mp hc
    exact .archive hgates hbefore hchild hvalid hinsert (overrules_of_overruleGate hoverrule) rfl

end Specs

namespace EvolutionRun

/-- The loop goes on: a cycle is left, and the search has not converged. -/
def Continues (options : RunOptions) (run : EvolutionRun) : Prop :=
  run.history.length < options.config.maxCycles ∧
    (run.history ≠ [] → isConverged run.state options.config = false)

instance (options : RunOptions) (run : EvolutionRun) : Decidable (run.Continues options) :=
  inferInstanceAs (Decidable (_ ∧ _))

/-- The snapshots that the next selection is resolved from. -/
def selectable (run : EvolutionRun) : List WorkspaceSnapshot :=
  match run.archive with
  | none => run.snapshots
  | some _ => addGraveyardSnapshots run.graveyard run.snapshots

/-- The selection of the next cycle. -/
def selectPlan (options : RunOptions) (services : CycleServices) (run : EvolutionRun) :
    Except String SelectionPlan :=
  match run.archive with
  | none => hillClimbPlan run.state
  | some archive => selectQdPlan options.config services archive run.graveyard

/-- One round of the loop of `run_evolution`. -/
def cycleWith (options : RunOptions) (services : CycleServices) (run : EvolutionRun) :
    Except String EvolutionRun := do
  require (run.Continues options) "the loop is over"
  let plan ← run.selectPlan options services
  let resolved ← resolveSelection plan run.selectable
  executeEvolutionCycle ribs options services { run with snapshots := run.selectable }
    (run.cycle + 1) resolved

/-- Rounds of the loop, each with its own services. -/
def cyclesWith (options : RunOptions) (run : EvolutionRun) (rounds : List CycleServices) :
    Except String EvolutionRun :=
  rounds.foldlM (fun run services => run.cycleWith ribs options services) run

end EvolutionRun

section Rounds

variable {ribs} {options : RunOptions} {services : CycleServices} {run run' : EvolutionRun}
  {outcome : CycleOutcome}

/-- The snapshots and the graveyard that a decided cycle leaves. -/
inductive Applies (options : RunOptions) (run : EvolutionRun) (outcome : CycleOutcome)
    (snapshots : List WorkspaceSnapshot) (graveyard : MutationGraveyard) : Prop
  | accepted {child : EvaluatedCandidate} (evaluated : outcome.child = some child)
      (decided : outcome.decision.decision = .accepted)
      (registers : snapshots =
        Table.upsert WorkspaceSnapshot.candidateId child.snapshot run.selectable)
      (kept : graveyard = run.graveyard)
  | rejected {child : EvaluatedCandidate} (now : String) (evaluated : outcome.child = some child)
      (decided : outcome.decision.decision = .rejected)
      (kept : snapshots = run.selectable)
      (buries : graveyard = run.graveyard.append (buriedEntry outcome child options.runId now))
  | other (snapshots_kept : snapshots = run.selectable) (graveyard_kept : graveyard = run.graveyard)
      (skipped : ∀ c ∈ outcome.child, outcome.decision.decision = .skipped)

/-- What one round does to a run. -/
structure Cycles (ribs : CVTArchive) (options : RunOptions) (services : CycleServices)
    (run : EvolutionRun) (outcome : CycleOutcome) (run' : EvolutionRun) : Prop where
  history : run'.history = run.history ++ [outcome]
  cycle : run'.cycle = run.cycle + 1
  checked : outcome.check = .ok ()
  /-- A hill climb selects the best candidate. -/
  hillClimb : run.archive = none →
    outcome.selection.parentCandidateId = run.state.bestCandidateId
  /-- The parent is the registered candidate of that name, or the evaluated baseline. -/
  parent : ∃ snapshot,
    Table.lookup WorkspaceSnapshot.candidateId outcome.selection.parentCandidateId
      run.selectable = some snapshot ∧
      ((outcome.parent.snapshot = snapshot ∧ outcome.parent.Sound) ∨ outcome.parent = run.baseline)
  /-- The proposal is what the proposer returns for the name of the cycle's child. -/
  proposed : ∃ request, services.propose request
    (options.makeCandidateId options.runId (run.cycle + 1)) = .ok outcome.proposal
  /-- A child is evaluated when one is submitted. -/
  child : (outcome.proposal.status = .submitted ∧ ∃ c, outcome.child = some c ∧
      outcome.proposal.child = some c.snapshot ∧ c.Sound) ∨
    (outcome.proposal.status ≠ .submitted ∧ outcome.child = none)
  decided : Decides ribs options run.state run.archive outcome.parent outcome.proposal
    outcome.child outcome.decision run'.archive
  next : nextEvolutionState run.state outcome.parent outcome.child outcome.decision =
    .ok run'.state
  applied : Applies options run outcome run'.snapshots run'.graveyard
  baseline : run'.baseline = run.baseline

variable {snapshots : List WorkspaceSnapshot}

lemma resolveCandidate_eq_ok {candidateId : String} {snapshot : WorkspaceSnapshot} :
    resolveCandidate snapshots candidateId = .ok snapshot ↔
      Table.lookup WorkspaceSnapshot.candidateId candidateId snapshots = some snapshot := by
  unfold resolveCandidate
  cases Table.lookup WorkspaceSnapshot.candidateId candidateId snapshots <;> simp

variable {batch : CandidateEvaluationBatch}

lemma evaluateParent_eq_ok {cycle : ℕ} {parent : WorkspaceSnapshot} {evaluated : EvaluatedCandidate}
    (h : evaluateParent services run cycle parent batch = .ok evaluated) :
    (evaluated.snapshot = parent ∧ evaluated.Sound) ∨ evaluated = run.baseline := by
  unfold evaluateParent at h
  split_ifs at h
  · exact .inr (Except.ok.inj h).symm
  · exact .inl (CandidateChecks.assess_eq_ok h)

variable {resolved : ResolvedSelection}

lemma proposeChild_eq_ok {cycle : ℕ} {parent : EvaluatedCandidate} {proposal : CandidateProposal}
    {child : Option EvaluatedCandidate}
    (h : proposeChild options services run cycle resolved parent batch = .ok (proposal, child)) :
    (∃ request, services.propose request (options.makeCandidateId options.runId cycle) =
        .ok proposal) ∧
      ((proposal.status = .submitted ∧ ∃ c, child = some c ∧ proposal.child = some c.snapshot ∧
        c.Sound) ∨ (proposal.status ≠ .submitted ∧ child = none)) := by
  simp only [proposeChild, bind_eq_ok] at h
  obtain ⟨_, -, proposal', hproposed, _, -, h⟩ := h
  by_cases hstatus : proposal'.status = .submitted
  · simp only [if_pos hstatus, bind_eq_ok, pure_eq_ok, Prod.mk.injEq] at h
    obtain ⟨snapshot, hsnapshot, c, hassess, rfl, rfl⟩ := h
    obtain ⟨hc, hsound⟩ := CandidateChecks.assess_eq_ok hassess
    refine ⟨⟨_, hproposed⟩, .inl ⟨hstatus, c, rfl, ?_, hsound⟩⟩
    cases hchild : proposal'.child with
    | none =>
      rw [hchild] at hsnapshot
      cases hsnapshot
    | some proposed =>
      rw [hchild] at hsnapshot
      rw [hc, Except.ok.inj hsnapshot]
  · simp only [if_neg hstatus, pure_eq_ok, Prod.mk.injEq] at h
    obtain ⟨rfl, rfl⟩ := h
    exact ⟨⟨_, hproposed⟩, .inr ⟨hstatus, rfl⟩⟩

lemma hillClimbPlan_eq_ok {state : EvolutionState} {plan : SelectionPlan}
    (h : hillClimbPlan state = .ok plan) : plan.parentCandidateId = state.bestCandidateId := by
  simp only [hillClimbPlan, unit_bind_eq_ok, pure_eq_ok] at h
  obtain ⟨-, rfl⟩ := h
  rfl

lemma resolveSelection_eq_ok {plan : SelectionPlan}
    (h : resolveSelection plan snapshots = .ok resolved) :
    resolved.plan = plan ∧
      Table.lookup WorkspaceSnapshot.candidateId plan.parentCandidateId snapshots =
        some resolved.parent := by
  simp only [resolveSelection, bind_eq_ok, pure_eq_ok] at h
  obtain ⟨parent, hparent, _, -, _, -, rfl⟩ := h
  exact ⟨rfl, resolveCandidate_eq_ok.mp hparent⟩

lemma applies_of_applyOutcome {applied : EvolutionRun}
    (h : applyOutcome options services { run with snapshots := run.selectable } outcome =
      .ok applied) :
    ∃ snapshots graveyard, applied = { run with snapshots, graveyard } ∧
      Applies options run outcome snapshots graveyard := by
  cases hchild : outcome.child with
  | none =>
    have happlied : applied = { run with snapshots := run.selectable } := by
      unfold applyOutcome at h
      rw [hchild] at h
      cases hdecision : outcome.decision.decision <;>
        (rw [hdecision] at h; exact (Except.ok.inj h).symm)
    subst happlied
    exact ⟨_, _, rfl, .other rfl rfl fun c hc => by simp [hchild] at hc⟩
  | some c =>
    cases hdecision : outcome.decision.decision with
    | accepted =>
      simp only [applyOutcome, hdecision, hchild, unit_bind_eq_ok, pure_eq_ok] at h
      obtain ⟨-, rfl⟩ := h
      exact ⟨_, _, rfl, .accepted hchild hdecision rfl rfl⟩
    | rejected =>
      simp only [applyOutcome, hdecision, hchild, Except.ok.injEq] at h
      subst h
      exact ⟨_, _, rfl, .rejected _ hchild hdecision rfl rfl⟩
    | skipped =>
      simp only [applyOutcome, hdecision, hchild, Except.ok.injEq] at h
      subst h
      exact ⟨_, _, rfl, .other rfl rfl fun _ _ => hdecision⟩

/-- **What one round of the loop does.** -/
theorem cycles_of_cycleWith (h : run.cycleWith ribs options services = .ok run') :
    ∃ outcome, Cycles ribs options services run outcome run' := by
  simp only [EvolutionRun.cycleWith, bind_eq_ok, require_eq_ok, Unique.exists_iff] at h
  obtain ⟨-, plan, hplan, resolved, hresolved, h⟩ := h
  obtain ⟨rfl, hlookup⟩ := resolveSelection_eq_ok hresolved
  simp only [executeEvolutionCycle, bind_eq_ok, pure_eq_ok, Prod.exists, Unique.exists_iff] at h
  obtain ⟨batch, -, parent, hparent, proposal, child, hchild, decision, archive, hdecide, state,
    hstate, hcheck, applied, happlied, rfl⟩ := h
  obtain ⟨snapshots, graveyard, rfl, happlies⟩ := applies_of_applyOutcome happlied
  refine ⟨⟨run.cycle + 1, resolved.plan, parent, proposal, child, decision,
    state.activeCandidateId, state.bestCandidateId⟩, ?_⟩
  exact {
    history := rfl
    cycle := rfl
    checked := hcheck
    hillClimb := fun hnone => by
      rw [EvolutionRun.selectPlan, hnone] at hplan
      exact hillClimbPlan_eq_ok hplan
    parent := ⟨_, hlookup, evaluateParent_eq_ok hparent⟩
    proposed := (proposeChild_eq_ok hchild).1
    child := (proposeChild_eq_ok hchild).2
    decided := decides_of_decideChild hdecide
    next := hstate
    applied := by
      cases happlies with
      | accepted hc hd hs hg => exact .accepted hc hd hs hg
      | rejected now hc hd hs hg => exact .rejected now hc hd hs hg
      | other hs hg hskipped => exact .other hs hg hskipped
    baseline := rfl }

end Rounds

/-! ## The files of a workspace -/

/-- What a quality-diversity run leaves for the next one; a missing file is absent. -/
structure EvolutionFiles where
  graveyard : List GraveyardEntry := []
  archive : Option QDArchive.File := none
  cycle : Option ℕ := none

/-- The records inside an entry of the graveyard file. -/
def graveyardErrors (entry : GraveyardEntry) : Errors :=
  optional WorkspaceSnapshot.errors entry.rejectedSnapshot ++
    optional CandidateAssessment.errors entry.parentAssessment ++
    optional CandidateAssessment.errors entry.childAssessment

/-- `MutationGraveyard.load`. -/
def loadGraveyard (file : List GraveyardEntry) : Except Errors MutationGraveyard := do
  let entries ← validateEach graveyardErrors file
  return (Deque.empty graveyardSize GraveyardEntry).extend entries

/-- The archive of a run: that of the file, or an empty one. -/
def loadArchive (config : EvolutionConfig) (file : Option QDArchive.File) :
    Except Errors QDArchive :=
  file.elim (.ok { nCentroids := config.qdNCentroids, seed := config.qdSeed }) (QDArchive.load ribs)

namespace EvolutionRun

/-- The archive of a quality-diversity run with the baseline in it, the snapshots that the files
add, and the number of the last cycle. -/
def openArchive (options : RunOptions) (files : EvolutionFiles) (baseline : EvaluatedCandidate)
    (graveyard : MutationGraveyard) (snapshots : List WorkspaceSnapshot) :
    Except String (QDArchive × List WorkspaceSnapshot × ℕ) := do
  let archive ← (loadArchive ribs options.config files.archive).mapError (·.summary "WorkspaceSnapshot")
  let (_, archive) ← insertCandidateDescriptors ribs archive baseline options.runId
  let snapshots ← addArchiveSnapshots archive snapshots
  return (archive, addGraveyardSnapshots graveyard snapshots, files.cycle.getD 0)

/-- The part of `run_evolution` before its loop. The baseline is the workspace as it stands. -/
def start (options : RunOptions) (checks : CandidateChecks) (files : EvolutionFiles)
    (exported : WorkspaceSnapshot) : Except String EvolutionRun := do
  let graveyard ← (loadGraveyard files.graveyard).mapError (·.summary "GraveyardEntry")
  let snapshot ← construct WorkspaceSnapshot.errors "WorkspaceSnapshot"
    { exported with candidateId := "baseline" }
  let batch ← checks.plan options.config.batchSize 0
  let baseline ← checks.assess snapshot batch
  let state ← EvolutionState.fromBaseline baseline options.config.structuralWeight
  let fresh : EvolutionRun :=
    { state, cycle := 0, history := [], snapshots := [snapshot], graveyard, archive := none,
      memory := [], baselineBatch := batch, baseline }
  match options.config.strategy with
  | .hillClimb => return fresh
  | .qd =>
    let (archive, snapshots, cycle) ← openArchive ribs options files baseline graveyard [snapshot]
    return { fresh with archive := some archive, snapshots, cycle }

/-- The files that a finished run writes. -/
def save (run : EvolutionRun) (files : EvolutionFiles) : EvolutionFiles where
  graveyard := run.graveyard.items
  archive := run.archive.elim files.archive fun archive => some archive.save
  cycle := run.archive.elim files.cycle fun _ => some run.cycle

end EvolutionRun

end AecBench.Evolution
