import AecBench.Evolution.Contracts
import AecBench.Evolution.Memory

/-!
# Values of an evolution cycle

Candidates bound to their evidence, the selection of a parent, and the proposal a variation call
returns, each with what its constructor checks.

## Main definitions

* `EvaluatedCandidate`, `RevisionAttempt` — evaluated material.
* `SelectionPlan` — the parent and the inspirations of a cycle.
* `CandidateProposal` — a submitted child or an explicit non-submission.
* `assessmentScore` — the gate score of an assessment.
-/

namespace AecBench.Evolution

open Validation

/-! ## Evaluated material -/

/-- One snapshot and the evidence produced by it. -/
structure EvaluatedCandidate where
  snapshot : WorkspaceSnapshot
  observations : List EvolutionObservation
  assessment : CandidateAssessment
  deriving Inhabited

/-- `_extension_candidate_ids`: the candidate an extension names, if it names one. -/
def ExtensionValue.candidateId? : ExtensionValue → Option String
  | .provenance value => some value.candidateId
  | .model _ candidateId _ => candidateId
  | .plain candidateId _ => candidateId

/-- `_validate_observation_candidate`. -/
def validateObservationCandidate (candidateId : String) (obs : EvolutionObservation) :
    Except String Unit := do
  require (obs.candidateId = candidateId)
    "observation candidate_id must match the snapshot candidate_id"
  require (∀ entry ∈ obs.trial.pendingExtensions,
      ∀ id ∈ entry.2.candidateId?, id = candidateId)
    "trial extension candidate_id must match the snapshot candidate_id"

/-- What the constructor of an evaluated candidate checks. -/
def EvaluatedCandidate.check (evaluated : EvaluatedCandidate) : Except String Unit := do
  require (evaluated.observations ≠ []) "evaluated candidate evidence must not be empty"
  require (evaluated.assessment.candidateId = evaluated.snapshot.candidateId)
    "assessment candidate_id must match the snapshot candidate_id"
  let _ ← evaluated.observations.mapM
    (validateObservationCandidate evaluated.snapshot.candidateId)
  let trialIds := evaluated.observations.map (·.trial.trialId)
  require trialIds.Nodup "evaluated candidate trial IDs must be unique"
  require (trialIds = evaluated.assessment.trialIds)
    "assessment trial_ids must match the evidence order exactly"

/-- One exact scratch revision and its evaluation. -/
structure RevisionAttempt where
  attemptId : String
  revision : ℕ
  evaluated : EvaluatedCandidate
  mutation : MutationSummary
  hypothesis : String
  usageAfter : ProposalUsage

/-- What the constructor of a revision attempt checks. -/
def RevisionAttempt.check (attempt : RevisionAttempt) : Except String Unit := do
  requireText attempt.attemptId "attempt_id"
  requireText attempt.hypothesis "hypothesis"
  require (1 ≤ attempt.usageAfter.developmentEvaluations)
    "revision attempt usage must include one revision check"

/-! ## Selection -/

structure SelectionPlan where
  parentCandidateId : String
  inspirationCandidateIds : List String
  strategy : MutationStrategy
  goal : String
  reasoning : String
  deriving DecidableEq

/-- What the constructor of a selection plan checks. -/
def SelectionPlan.check (plan : SelectionPlan) : Except String Unit := do
  requireText plan.parentCandidateId "parent_candidate_id"
  requireText plan.goal "goal"
  requireText plan.reasoning "reasoning"
  let _ ← plan.inspirationCandidateIds.mapM fun id => requireText id "inspiration_candidate_id"
  require plan.inspirationCandidateIds.Nodup "selection inspiration candidate IDs must be unique"
  require (plan.parentCandidateId ∉ plan.inspirationCandidateIds)
    "selection parent cannot also be an inspiration"

/-! ## Proposals -/

inductive ProposalStatus
  | submitted
  | abstained
  | budgetExhausted
  | cancelled
  deriving DecidableEq

def ProposalStatus.value : ProposalStatus → String
  | submitted => "submitted"
  | abstained => "abstained"
  | budgetExhausted => "budget_exhausted"
  | cancelled => "cancelled"

structure CandidateProposal where
  status : ProposalStatus
  child : Option WorkspaceSnapshot
  mutation : Option MutationSummary
  reasoning : String
  usage : ProposalUsage
  attempt : Option RevisionAttempt := none
  memory : List AVOMemoryEntry := []

/-- What the constructor of a proposal checks. -/
def CandidateProposal.check (proposal : CandidateProposal) : Except String Unit := do
  requireText proposal.reasoning "reasoning"
  let memory ← validateMemoryEntries proposal.memory
  require (memory.length ≤ avoMemoryLimit)
    s!"proposal memory must contain at most {avoMemoryLimit} entries"
  if proposal.status = .submitted then
    match proposal.child, proposal.mutation, proposal.attempt with
    | some child, some _, some attempt =>
      require (attempt.evaluated.snapshot.SameMaterial child)
        "submitted child must match the exact evaluated attempt snapshot"
    | _, _, _ =>
      .error "submitted proposal requires a child, mutation summary, and evaluated attempt"
  else
    require (proposal.child = none ∧ proposal.mutation = none ∧ proposal.attempt = none)
      s!"{proposal.status.value} proposal must not contain child, mutation, or attempt"

/-! ## Scores -/

/-- The gate score of an assessment. -/
def assessmentScore (assessment : CandidateAssessment) (structuralWeight : ℚ) :
    Except String ℚ := do
  require (0 ≤ structuralWeight ∧ structuralWeight ≤ 1)
    "structural_weight must be finite and between 0.0 and 1.0"
  match assessment.structuralScore with
  | none => return assessment.batchScore
  | some score =>
    return assessment.batchScore * (1 - structuralWeight) + score * structuralWeight

end AecBench.Evolution
