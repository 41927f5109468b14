import Mathlib.Algebra.Field.Rat
import Mathlib.Algebra.Order.Ring.Rat
import AecBench.Lib.Validation

/-!
# Values of the evolution domain

The material of a candidate, the evidence of its trials, the assessment projected from them and
the usage of one variation call, with the validators of the records among them.

## Main definitions

* `SkillEntry`, `WorkspaceSnapshot` — the material of a candidate; `WorkspaceSnapshot.SameMaterial`
  compares two of them without their names.
* `TrialRecord`, `EvolutionObservation` — the evidence.
* `CandidateAssessment` — what is projected from the evidence of one candidate.
* `ProposalUsage`, `ProposalUsage.totalCostUsd` — the usage of one variation call.

## Implementation notes

* Scores and descriptor values are rational numbers, costs and elapsed times non-negative ones:
  the code checks that its floats are finite.
* The fields of a trial record that no modelled function reads are one text, `rest`.
-/

namespace AecBench.Evolution

open Validation

/-! ## Candidate material -/

structure SkillEntry where
  name : String
  description : String
  discipline : Option String := none
  body : String
  deriving DecidableEq

def SkillEntry.errors (skill : SkillEntry) : Errors :=
  record
    [("name", nonEmptyStr skill.name), ("description", nonEmptyStr skill.description),
      ("body", nonEmptyStr skill.body)]
    (.ok ())

structure WorkspaceSnapshot where
  systemPrompt : String
  skills : List SkillEntry := []
  candidateId : String
  deriving DecidableEq, Inhabited

def WorkspaceSnapshot.errors (snapshot : WorkspaceSnapshot) : Errors :=
  record
    [("system_prompt", nonEmptyStr snapshot.systemPrompt),
      ("skills", each SkillEntry.errors snapshot.skills),
      ("candidate_id", nonEmptyStr snapshot.candidateId)]
    (.ok ())

/-- `_same_workspace_material`: equal prompts and equal skills. -/
def WorkspaceSnapshot.SameMaterial (left right : WorkspaceSnapshot) : Prop :=
  left.systemPrompt = right.systemPrompt ∧ left.skills = right.skills

instance (left right : WorkspaceSnapshot) : Decidable (left.SameMaterial right) :=
  inferInstanceAs (Decidable (_ ∧ _))

lemma WorkspaceSnapshot.errors_eq_nil {snapshot : WorkspaceSnapshot} :
    snapshot.errors = [] ↔
      ¬ Text.Blank snapshot.systemPrompt ∧ (∀ skill ∈ snapshot.skills, skill.errors = []) ∧
        ¬ Text.Blank snapshot.candidateId := by
  simp [errors, record_eq_nil]

structure MutationSummary where
  promptModified : Bool := false
  skillsAdded : List String := []
  skillsModified : List String := []
  skillsRemoved : List String := []
  memoryEntriesAdded : ℤ := 0
  evolverReasoning : Option String := none
  deriving DecidableEq

inductive MutationStrategy
  | conservative
  | exploratory
  | crossover
  | graveyardRescue
  deriving DecidableEq

def MutationStrategy.value : MutationStrategy → String
  | conservative => "conservative"
  | exploratory => "exploratory"
  | crossover => "crossover"
  | graveyardRescue => "graveyard_rescue"

/-! ## Usage -/

/-- The usage of one variation call; an absent cost or token count is unknown. -/
structure ProposalUsage where
  modelRequests : ℕ := 0
  toolCalls : ℕ := 0
  developmentEvaluations : ℕ := 0
  supervisorInterventions : ℕ := 0
  inputTokens : Option ℕ := none
  outputTokens : Option ℕ := none
  modelCostUsd : Option ℚ≥0 := none
  developmentEvaluationCostUsd : Option ℚ≥0 := none
  elapsedSeconds : ℚ≥0 := 0
  deriving DecidableEq

/-- The total cost, when every cost plane that was used is known. -/
def ProposalUsage.totalCostUsd (usage : ProposalUsage) : Option ℚ≥0 := do
  let modelCost ← if usage.modelRequests = 0 then some 0 else usage.modelCostUsd
  let evaluationCost ←
    if usage.developmentEvaluations = 0 then some 0 else usage.developmentEvaluationCostUsd
  return modelCost + evaluationCost

/-! ## Trial evidence -/

inductive ExecutionStatus
  | planned
  | running
  | completed
  | failed
  | cancelled
  | invalid
  deriving DecidableEq

def ExecutionStatus.value : ExecutionStatus → String
  | planned => "planned"
  | running => "running"
  | completed => "completed"
  | failed => "failed"
  | cancelled => "cancelled"
  | invalid => "invalid"

inductive EvaluationStatus
  | notRequested
  | pending
  | completed
  | invalid
  | failed
  deriving DecidableEq

def EvaluationStatus.value : EvaluationStatus → String
  | notRequested => "not_requested"
  | pending => "pending"
  | completed => "completed"
  | invalid => "invalid"
  | failed => "failed"

structure ValidityCheck where
  outputParseable : Bool
  schemaValid : Bool
  verifierCompleted : Bool
  errors : List String := []

structure EvaluationResult where
  reward : ℚ
  validity : ValidityCheck

structure CostRecord where
  tokensIn : Option ℕ := none
  tokensOut : Option ℕ := none
  estimatedCostUsd : Option ℚ≥0 := none

structure RunManifest where
  runId : String
  experimentId : String
  rest : String := ""
  deriving DecidableEq

/-- The identity of one revision check; its role is always `development`. -/
structure RevisionEvaluationProvenance where
  experimentId : String
  trialId : String
  candidateId : String
  revision : ℕ
  evaluationCaseId : String
  deriving DecidableEq

/-- A value attached to a trial under an extension kind. -/
inductive ExtensionValue
  | provenance (value : RevisionEvaluationProvenance)
  /-- An instance of the model or dataclass `type`, with its fields as JSON. -/
  | model (type : String) (candidateId : Option String) (json : String)
  /-- A plain JSON value. -/
  | plain (candidateId : Option String) (json : String)
  deriving DecidableEq

structure TrialRecord where
  trialId : String
  runId : String
  taskId : String
  attempt : ℕ := 1
  executionStatus : ExecutionStatus
  evaluationStatus : EvaluationStatus
  isPublic : Bool := true
  evaluation : Option EvaluationResult := none
  cost : Option CostRecord := none
  runManifest : Option RunManifest := none
  pendingExtensions : List (String × ExtensionValue) := []
  rest : String := ""

/-- `require_evaluation`. -/
def TrialRecord.requireEvaluation (record : TrialRecord) : Except String EvaluationResult :=
  match record.evaluation with
  | some evaluation => .ok evaluation
  | none => .error s!"trial {record.trialId} has no EvaluationResult evidence"

structure TraceDigest where
  turnCount : ℕ
  toolCallCount : ℕ
  toolErrorCount : ℕ := 0
  bondSequence : String
  rest : String := ""

structure ObservationEnrichment where
  structuralScore : Option ℚ := none
  traceDigest : Option TraceDigest := none
  rest : String := ""

structure EvolutionObservation where
  trial : TrialRecord
  enrichment : ObservationEnrichment := {}
  candidateId : String
  discipline : String

/-! ## Assessments -/

structure CandidateAssessment where
  candidateId : String
  batchScore : ℚ
  disciplineScores : List (String × ℚ) := []
  trialIds : List String
  evaluationCaseIds : List String
  valid : Bool
  structuralScore : Option ℚ := none
  invalidReasons : List String := []
  deriving Inhabited

/-- `validate_unique_ids` for the field `name`. -/
def validateUniqueIds (name : String) (ids : List String) : Except String Unit := do
  require (ids ≠ []) s!"{name} must not be empty"
  require ids.Nodup s!"{name} must be unique"

def CandidateAssessment.validateEvidenceCardinality (assessment : CandidateAssessment) :
    Except String Unit := do
  require (assessment.trialIds.length = assessment.evaluationCaseIds.length)
    "trial_ids and evaluation_case_ids must have equal cardinality"
  require (assessment.valid = true → assessment.invalidReasons = [])
    "valid candidate assessments cannot contain invalid reasons"
  require (assessment.valid = false → assessment.invalidReasons ≠ [])
    "invalid candidate assessments require invalid reasons"

def CandidateAssessment.errors (assessment : CandidateAssessment) : Errors :=
  record
    [("candidate_id", nonEmptyStr assessment.candidateId),
      ("discipline_scores", ofCheck (require
        (∀ entry ∈ assessment.disciplineScores, ¬ Text.Blank entry.1)
        "discipline score names must not be blank")),
      ("trial_ids", andThen (each nonEmptyStr assessment.trialIds)
        (validateUniqueIds "trial_ids" assessment.trialIds)),
      ("evaluation_case_ids", andThen (each nonEmptyStr assessment.evaluationCaseIds)
        (validateUniqueIds "evaluation_case_ids" assessment.evaluationCaseIds)),
      ("invalid_reasons", each nonEmptyStr assessment.invalidReasons)]
    assessment.validateEvidenceCardinality

/-- The position of a candidate in behaviour space. -/
structure BehaviourDescriptor where
  tokenCost : ℚ
  verificationDepth : ℚ
  toolDensity : ℚ
  explorationRatio : ℚ
  deliberationRatio : ℚ
  reward : ℚ
  deriving Inhabited

/-- `extract_behaviour_descriptor`. -/
def extractBehaviourDescriptor (obs : EvolutionObservation) :
    Except String BehaviourDescriptor := do
  let tokenCost : ℕ := match obs.trial.cost with
    | some cost => cost.tokensIn.getD 0 + cost.tokensOut.getD 0
    | none => 0
  let evaluation ← obs.trial.requireEvaluation
  let reward := evaluation.reward
  match obs.enrichment.traceDigest with
  | none => return ⟨tokenCost, 0, 0, 0, 0, reward⟩
  | some digest =>
    if digest.bondSequence = "" then return ⟨tokenCost, 0, 0, 0, 0, reward⟩
    else
      let bonds := digest.bondSequence.toList.splitOn '-'
      let ratio (bond : Char) : ℚ := (bonds.count [bond] : ℚ) / bonds.length
      let toolDensity : ℚ :=
        if 0 < digest.turnCount then (digest.toolCallCount : ℚ) / digest.turnCount else 0
      return ⟨tokenCost, ratio 'V', toolDensity, ratio 'X', ratio 'D', reward⟩

end AecBench.Evolution
