import AecBench.Evolution.Revision
import AecBench.Evolution.Variation

/-!
# Checkpoints of a variation call

The document from which a call is resumed: how it is made from the state of a call, what its
validator checks, and how the state is restored from it.

## Main definitions

* `AVOCheckpointObservation`, `AVOCheckpointEvaluatedCandidate`, `AVOCheckpointAttempt` — evidence
  as it is persisted.
* `AVOCheckpoint`, `AVOCheckpoint.validate` — the document and its validator.
* `AVOCheckpoint.fromState`, `AVOCheckpoint.toState` — the document of a state, and back.
* `AVOCheckpoint.persisted` — what is left of a document once it is written and parsed again.
* `AVOCheckpoint.read`, `AVOCheckpoint.requireResumable`, `AVOCheckpoint.terminalProposal` — what a
  resumed call does with a document.

## Main results

* `AVOCheckpoint.fromState_eq_ok` — a document that can be made is one of the state it was made
  of (`AVOCheckpoint.Documents`).

## Implementation notes

* Usage and budget are persisted field by field and validated by the rules of their own types, so
  the persisted forms are the types themselves.
* Time stamps of incomplete effects and the paths of trial outputs are left out. The references
  to the artifacts of a trial are part of the fields of a trial that are one text.
-/

namespace AecBench.Evolution

open Validation

/-! ## Evidence -/

/-- `_json_extension_value`: a typed value is persisted as its JSON. -/
def ExtensionValue.toJson : ExtensionValue → ExtensionValue
  | .provenance value =>
    .plain (some value.candidateId)
      (", ".intercalate ["\x7b\"role\": \"development\"",
        "\"experiment_id\": " ++ value.experimentId.quote,
        "\"trial_id\": " ++ value.trialId.quote,
        "\"candidate_id\": " ++ value.candidateId.quote,
        "\"revision\": " ++ toString value.revision,
        "\"evaluation_case_id\": " ++ value.evaluationCaseId.quote ++ "\x7d"])
  | .model _ candidateId json => .plain candidateId json
  | .plain candidateId json => .plain candidateId json

/-- One trial observation of a checkpoint. -/
structure AVOCheckpointObservation where
  trial : TrialRecord
  enrichment : ObservationEnrichment
  candidateId : String
  discipline : String
  developmentProvenance : RevisionEvaluationProvenance
  extensionValues : List (String × ExtensionValue) := []

def AVOCheckpointObservation.fromObservation (observation : EvolutionObservation) :
    Except String AVOCheckpointObservation :=
  match observation.trial.pendingExtensions.lookup developmentEvaluation with
  | some (.provenance provenance) => do
    requireText observation.candidateId "candidate_id"
    requireText observation.discipline "discipline"
    return {
      trial := observation.trial
      enrichment := observation.enrichment
      candidateId := observation.candidateId
      discipline := observation.discipline
      developmentProvenance := provenance
      extensionValues :=
        (observation.trial.pendingExtensions.filter (·.1 ≠ developmentEvaluation)).map
          fun entry => (entry.1, entry.2.toJson) }
  | _ => .error "checkpoint observation requires RevisionEvaluationProvenance"

/-- Attach an extension, unless it is there with the same value. -/
def restoreExtension (conflict : String) (trial : TrialRecord)
    (entry : String × ExtensionValue) : Except String TrialRecord :=
  match trial.pendingExtensions.lookup entry.1 with
  | none => trial.attachExtension entry.1 entry.2
  | some existing => do
    require (existing = entry.2) conflict
    return trial

def AVOCheckpointObservation.toObservation (observation : AVOCheckpointObservation) :
    Except String EvolutionObservation := do
  let restored ← restoreExtension
    "checkpoint development provenance conflicts with TrialRecord extension" observation.trial
    (developmentEvaluation, .provenance observation.developmentProvenance)
  let restored ← observation.extensionValues.foldlM (fun trial entry => restoreExtension
    s!"checkpoint extension value conflicts with TrialRecord extension: {entry.1}" trial entry)
    restored
  return {
    trial := restored
    enrichment := observation.enrichment
    candidateId := observation.candidateId
    discipline := observation.discipline }

/-- A candidate with its evidence, in a checkpoint. -/
structure AVOCheckpointEvaluatedCandidate where
  snapshot : WorkspaceSnapshot
  observations : List AVOCheckpointObservation
  assessment : CandidateAssessment

def AVOCheckpointEvaluatedCandidate.toEvaluatedCandidate
    (candidate : AVOCheckpointEvaluatedCandidate) : Except String EvaluatedCandidate := do
  let observations ← candidate.observations.mapM AVOCheckpointObservation.toObservation
  evaluatedCandidate candidate.snapshot observations candidate.assessment

/-- The validator of a persisted candidate. -/
def AVOCheckpointEvaluatedCandidate.check (candidate : AVOCheckpointEvaluatedCandidate) :
    Except String Unit := do
  require (candidate.observations ≠ [])
    "checkpoint evaluated candidate evidence must not be empty"
  let _ ← candidate.toEvaluatedCandidate

def AVOCheckpointEvaluatedCandidate.fromEvaluatedCandidate (candidate : EvaluatedCandidate) :
    Except String AVOCheckpointEvaluatedCandidate := do
  let observations ← candidate.observations.mapM AVOCheckpointObservation.fromObservation
  let persisted := {
    snapshot := candidate.snapshot, observations, assessment := candidate.assessment }
  AVOCheckpointEvaluatedCandidate.check persisted
  return persisted

/-- An attempt, in a checkpoint. -/
structure AVOCheckpointAttempt where
  attemptId : String
  revision : ℕ
  evaluated : AVOCheckpointEvaluatedCandidate
  mutation : MutationSummary
  hypothesis : String
  usageAfter : ProposalUsage

/-- The constructor of an attempt. -/
def revisionAttempt (attempt : RevisionAttempt) : Except String RevisionAttempt := do
  attempt.check
  return attempt

def AVOCheckpointAttempt.toAttempt (attempt : AVOCheckpointAttempt) :
    Except String RevisionAttempt := do
  let evaluated ← attempt.evaluated.toEvaluatedCandidate
  revisionAttempt {
    attemptId := attempt.attemptId
    revision := attempt.revision
    evaluated := evaluated
    mutation := attempt.mutation
    hypothesis := attempt.hypothesis
    usageAfter := attempt.usageAfter }

/-- The validator of a persisted attempt. -/
def AVOCheckpointAttempt.check (attempt : AVOCheckpointAttempt) : Except String Unit := do
  requireText attempt.attemptId "attempt_id"
  requireText attempt.hypothesis "hypothesis"
  let _ ← attempt.toAttempt

def AVOCheckpointAttempt.fromAttempt (attempt : RevisionAttempt) :
    Except String AVOCheckpointAttempt := do
  let evaluated ← AVOCheckpointEvaluatedCandidate.fromEvaluatedCandidate attempt.evaluated
  let persisted : AVOCheckpointAttempt := {
    attemptId := attempt.attemptId
    revision := attempt.revision
    evaluated := evaluated
    mutation := attempt.mutation
    hypothesis := attempt.hypothesis
    usageAfter := attempt.usageAfter }
  persisted.check
  return persisted

/-- The identity of one item of evidence. -/
structure AVOCheckpointEvidenceRef where
  attemptId : Option String
  runId : String
  experimentId : String
  candidateId : String
  trialId : String
  evaluationCaseId : String
  revision : ℕ
  artifactRefs : String
  deriving DecidableEq

/-- What the constructor of an evidence reference checks. -/
def AVOCheckpointEvidenceRef.check (ref : AVOCheckpointEvidenceRef) : Except String Unit := do
  ref.attemptId.elim (.ok ()) fun attemptId => requireText attemptId "attempt_id"
  requireText ref.runId "run_id"
  requireText ref.experimentId "experiment_id"
  requireText ref.candidateId "candidate_id"
  requireText ref.trialId "trial_id"
  requireText ref.evaluationCaseId "evaluation_case_id"

/-- `_candidate_evidence_refs`. -/
def candidateEvidenceRefs (candidate : AVOCheckpointEvaluatedCandidate) (revision : ℕ)
    (attemptId : Option String) : Except String (List AVOCheckpointEvidenceRef) := do
  require (candidate.assessment.evaluationCaseIds.length = candidate.observations.length)
    "zip() arguments have different lengths"
  (candidate.assessment.evaluationCaseIds.zip candidate.observations).mapM fun pair => do
    let ref : AVOCheckpointEvidenceRef := {
      attemptId := attemptId
      runId := pair.2.trial.runId
      experimentId := pair.2.developmentProvenance.experimentId
      candidateId := pair.2.candidateId
      trialId := pair.2.trial.trialId
      evaluationCaseId := pair.1
      revision := revision
      artifactRefs := pair.2.trial.rest }
    ref.check
    return ref

/-! ## The document -/

inductive AVOExternalEffectOperation
  | modelRequest
  | developmentEvaluation
  | compaction
  | supervisorRequest
  deriving DecidableEq

def AVOExternalEffectOperation.value : AVOExternalEffectOperation → String
  | modelRequest => "model_request"
  | developmentEvaluation => "development_evaluation"
  | compaction => "compaction"
  | supervisorRequest => "supervisor_request"

/-- An external operation whose completion is not confirmed. -/
structure AVOIncompleteExternalEffect where
  effectId : String
  operation : AVOExternalEffectOperation
  reason : String

def AVOIncompleteExternalEffect.check (effect : AVOIncompleteExternalEffect) :
    Except String Unit := do
  requireText effect.effectId "effect_id"
  requireText effect.reason "reason"

/-- What identifies the configuration of a call. -/
structure AVOConfigurationIdentity where
  modelIdentity : String
  supervisorModelIdentity : String
  toolIdentity : String
  developmentEvaluatorIdentity : String
  configurationIdentity : String
  deriving DecidableEq

def AVOConfigurationIdentity.check (identity : AVOConfigurationIdentity) :
    Except String Unit := do
  requireText identity.modelIdentity "model_identity"
  requireText identity.supervisorModelIdentity "supervisor_model_identity"
  requireText identity.toolIdentity "tool_identity"
  requireText identity.developmentEvaluatorIdentity "development_evaluator_identity"
  requireText identity.configurationIdentity "configuration_identity"

/-- The terminal result of a call, in a checkpoint. -/
structure AVOCheckpointTerminalResult where
  status : ProposalStatus
  reasoning : String
  usage : ProposalUsage
  child : Option WorkspaceSnapshot := none
  mutation : Option MutationSummary := none
  attemptId : Option String := none
  cancellationCode : Option AVOCancellationCode := none

/-- `validate_terminal_shape`, after the fields. -/
def AVOCheckpointTerminalResult.check (result : AVOCheckpointTerminalResult) :
    Except String Unit := do
  requireText result.reasoning "reasoning"
  result.attemptId.elim (.ok ()) fun attemptId => requireText attemptId "attempt_id"
  require (result.status = .submitted →
      result.child ≠ none ∧ result.mutation ≠ none ∧ result.attemptId ≠ none)
    "submitted checkpoint result requires child, mutation, and attempt_id"
  require (result.status ≠ .submitted →
      result.child = none ∧ result.mutation = none ∧ result.attemptId = none)
    s!"{result.status.value} checkpoint result must not contain child, mutation, or attempt"
  require (result.status = .cancelled → result.cancellationCode ≠ none)
    "cancelled checkpoint result requires a cancellation_code"
  require (result.status ≠ .cancelled → result.cancellationCode = none)
    "cancellation_code is only valid for a cancelled checkpoint result"

def AVOCheckpointTerminalResult.fromResult (result : CandidateProposal)
    (cancellationCode : Option AVOCancellationCode) :
    Except String AVOCheckpointTerminalResult := do
  let terminal : AVOCheckpointTerminalResult := {
    status := result.status
    reasoning := result.reasoning
    usage := result.usage
    child := result.child
    mutation := result.mutation
    attemptId := result.attempt.map (·.attemptId)
    cancellationCode := cancellationCode }
  terminal.check
  return terminal

/-- The document of one call. -/
structure AVOCheckpoint where
  runId : String
  variationId : String
  parentCandidateId : String
  finalChildCandidateId : String
  selection : SelectionPlan
  developmentCaseIds : List String
  developmentEvidenceRefs : List AVOCheckpointEvidenceRef := []
  configurationIdentity : AVOConfigurationIdentity
  parentSnapshot : WorkspaceSnapshot
  parentEvidence : Option AVOCheckpointEvaluatedCandidate := none
  currentRevision : ℕ
  currentSnapshot : WorkspaceSnapshot
  runManifests : List (String × RunManifest) := []
  evaluatedAttempts : List AVOCheckpointAttempt := []
  bestAttemptId : Option String := none
  consecutiveWithoutProgress : ℕ := 0
  consecutiveEvaluationErrors : ℕ := 0
  exhaustedDirectionRequested : Bool := false
  budget : AVOBudget
  usage : ProposalUsage
  structuredMemory : List AVOMemoryEntry := []
  supervisionRecords : List AVOAdviceRecord := []
  incompleteExternalEffects : List AVOIncompleteExternalEffect := []
  terminalResult : Option AVOCheckpointTerminalResult := none

namespace AVOCheckpoint

variable (checkpoint : AVOCheckpoint)

/-- The candidates whose evidence the document holds, each with its revision. -/
def evidence : List (AVOCheckpointEvaluatedCandidate × ℕ) :=
  (checkpoint.parentEvidence.toList.map fun candidate => (candidate, 0)) ++
    checkpoint.evaluatedAttempts.map fun attempt => (attempt.evaluated, attempt.revision)

/-- The trials of the evidence of the document, in order. -/
def evidenceTrialIds : List String :=
  checkpoint.evidence.flatMap fun entry => entry.1.observations.map (·.trial.trialId)

/-- The references that the evidence of the document has. -/
def expectedEvidenceRefs (parentEvidence : Option AVOCheckpointEvaluatedCandidate)
    (attempts : List AVOCheckpointAttempt) : Except String (List AVOCheckpointEvidenceRef) := do
  let parentRefs ← parentEvidence.elim (.ok []) fun candidate =>
    candidateEvidenceRefs candidate 0 none
  let attemptRefs ← attempts.mapM fun attempt =>
    candidateEvidenceRefs attempt.evaluated attempt.revision (some attempt.attemptId)
  return parentRefs ++ attemptRefs.flatten

/-- The validators of the single fields. -/
def checkFields : Except String Unit := do
  requireText checkpoint.runId "run_id"
  requireText checkpoint.variationId "variation_id"
  requireText checkpoint.parentCandidateId "parent_candidate_id"
  requireText checkpoint.finalChildCandidateId "final_child_candidate_id"
  checkpoint.selection.check
  let _ ← checkpoint.developmentCaseIds.mapM fun id => requireText id "development_case_ids"
  require (checkpoint.developmentCaseIds ≠ [])
    "checkpoint development_case_ids must not be empty"
  require checkpoint.developmentCaseIds.Nodup "checkpoint development_case_ids must be unique"
  checkpoint.configurationIdentity.check
  checkpoint.bestAttemptId.elim (.ok ()) fun id => requireText id "best_attempt_id"
  checkpoint.budget.check
  let _ ← validateMemoryEntries checkpoint.structuredMemory
  require (checkpoint.structuredMemory.length ≤ avoMemoryLimit)
    s!"checkpoint structured_memory must contain at most {avoMemoryLimit} entries"
  let _ ← checkpoint.incompleteExternalEffects.mapM AVOIncompleteExternalEffect.check
  require (checkpoint.incompleteExternalEffects.map (·.effectId)).Nodup
    "checkpoint incomplete external effect IDs must be unique"

/-- The part of `validate_consistency` about identities, incomplete effects and advice. -/
def checkEffects : Except String Unit := do
  require (checkpoint.selection.parentCandidateId = checkpoint.parentCandidateId)
    "checkpoint selection parent must match parent_candidate_id"
  require (checkpoint.parentCandidateId ≠ checkpoint.finalChildCandidateId)
    "checkpoint parent and final child candidate IDs must differ"
  require (checkpoint.parentSnapshot.candidateId = checkpoint.parentCandidateId)
    "checkpoint parent_snapshot must match parent_candidate_id"
  require (checkpoint.currentSnapshot.candidateId = checkpoint.finalChildCandidateId)
    "checkpoint current_snapshot must match final_child_candidate_id"
  require (checkpoint.terminalResult ≠ none → checkpoint.incompleteExternalEffects = [])
    "terminal checkpoint must not retain incomplete external effects"
  let inFlight :=
    checkpoint.incompleteExternalEffects.filter (·.operation = .supervisorRequest)
  require (inFlight.length ≤ 1)
    "checkpoint may contain at most one incomplete supervisor request"
  require (checkpoint.supervisionRecords.length ≤ checkpoint.budget.maxSupervisorInterventions)
    "checkpoint supervision_records exceed the configured supervisor intervention budget"
  require (checkpoint.supervisionRecords.length + inFlight.length =
      checkpoint.usage.supervisorInterventions)
    "checkpoint supervision_records and incomplete requests must match supervisor usage"
  require (checkpoint.exhaustedDirectionRequested = true →
      checkpoint.budget.maxSupervisorInterventions ≤ checkpoint.usage.supervisorInterventions →
      inFlight ≠ [])
    ("checkpoint exhausted_direction_requested cannot remain " ++
      "after supervisor budget is consumed")
  require (checkpoint.terminalResult ≠ none → checkpoint.exhaustedDirectionRequested = false)
    "terminal checkpoint cannot retain a pending exhausted-direction request"

/-- The part of `validate_consistency` about a document from before the evaluation of the
parent. -/
def checkPreBaseline : Except String Unit := do
  require (checkpoint.currentRevision = 0 ∧ checkpoint.evaluatedAttempts = [] ∧
      checkpoint.bestAttemptId = none ∧ checkpoint.developmentEvidenceRefs = [] ∧
      checkpoint.runManifests = [])
    "checkpoint without parent evidence must be pre-baseline with no evidence"
  require (checkpoint.parentSnapshot.SameMaterial checkpoint.currentSnapshot)
    "checkpoint without parent evidence must retain exact parent material"
  let usage := checkpoint.usage
  require (usage.modelRequests = 0 ∧ usage.toolCalls = 0 ∧ usage.developmentEvaluations = 0 ∧
      usage.supervisorInterventions = 0 ∧ usage.modelCostUsd = none ∧
      usage.developmentEvaluationCostUsd = none)
    "checkpoint without parent evidence must have zero usage counters and no recorded costs"
  match checkpoint.terminalResult with
  | none =>
    require (checkpoint.incompleteExternalEffects.length = 1 ∧
        ∀ effect ∈ checkpoint.incompleteExternalEffects,
          effect.operation = .developmentEvaluation ∧
            ":development-parent".toList <:+ effect.effectId.toList)
      "checkpoint without parent evidence must have the parent development incomplete marker"
  | some result => do
    require (result.status = .budgetExhausted →
        checkpoint.budget.maxElapsedSeconds ≤ usage.elapsedSeconds)
      "pre-baseline budget exhaustion requires elapsed_seconds to reach max_elapsed_seconds"
    require (result.status ≠ .submitted)
      ("checkpoint without parent evidence may only be terminal cancellation, abstention, " ++
        "or budget exhaustion")

/-- The part of `validate_consistency` about the evidence of the parent. -/
def checkParentEvidence : Except String Unit :=
  match checkpoint.parentEvidence with
  | none => checkpoint.checkPreBaseline
  | some candidate => do
    require (candidate.snapshot.candidateId = checkpoint.parentCandidateId)
      "checkpoint parent_evidence must match parent_candidate_id"
    require (candidate.assessment.evaluationCaseIds = checkpoint.developmentCaseIds)
      "checkpoint parent evidence cases must match development_case_ids exactly"

/-- `bind_run_manifest`, and the checks of one observation of `validate_consistency`. -/
def checkObservation (manifests : List (String × RunManifest)) (revision : ℕ)
    (observation : AVOCheckpointObservation) : Except String Unit := do
  let manifest ← (manifests.lookup observation.trial.runId).elim
    (.error "checkpoint run_manifests must cover every evidence run_id exactly") .ok
  require (manifest.runId = observation.trial.runId)
    "trial run_id does not match the run manifest"
  let provenance := observation.developmentProvenance
  require (provenance.experimentId = manifest.experimentId)
    "checkpoint development provenance experiment_id must match RunManifest"
  require (provenance.trialId = observation.trial.trialId)
    "checkpoint development provenance trial_id must match TrialRecord"
  require (provenance.candidateId = observation.candidateId)
    "checkpoint development provenance candidate_id must match observation"
  require (provenance.revision = revision)
    "checkpoint development provenance revision must match evidence revision"

/-- The part of `validate_consistency` about run manifests and provenance. -/
def checkManifests : Except String Unit := do
  let runIds := checkpoint.evidence.flatMap fun entry => entry.1.observations.map (·.trial.runId)
  require ((∀ runId ∈ runIds, runId ∈ checkpoint.runManifests.map Prod.fst) ∧
      ∀ runId ∈ checkpoint.runManifests.map Prod.fst, runId ∈ runIds)
    "checkpoint run_manifests must cover every evidence run_id exactly"
  require (∀ entry ∈ checkpoint.runManifests, entry.1 = entry.2.runId)
    "checkpoint run_manifests keys must match manifest run_id"
  let _ ← checkpoint.evidence.mapM fun entry =>
    entry.1.observations.mapM (checkObservation checkpoint.runManifests entry.2)

/-- The part of `validate_consistency` about the attempts. -/
def checkAttempts : Except String Unit := do
  let attempts := checkpoint.evaluatedAttempts
  let current := checkpoint.evaluatedAttempts.find? (·.revision = checkpoint.currentRevision)
  require (∀ attempt ∈ current, attempt.evaluated.snapshot.SameMaterial
      checkpoint.currentSnapshot)
    "checkpoint current_snapshot must match exact current evaluated attempt material"
  require (attempts.map (·.attemptId)).Nodup "checkpoint attempt IDs must be unique"
  require (attempts.map (·.revision)).Nodup "checkpoint attempt revisions must be unique"
  require (attempts.map (·.evaluated.snapshot.candidateId)).Nodup
    "checkpoint attempt snapshot IDs must be unique"
  require checkpoint.evidenceTrialIds.Nodup
    "checkpoint evidence trial IDs must be unique across parent and attempts"
  require (∀ best ∈ checkpoint.bestAttemptId, best ∈ attempts.map (·.attemptId))
    "checkpoint best_attempt_id must reference an attempt"
  require (∀ attempt ∈ attempts,
      attempt.evaluated.assessment.evaluationCaseIds = checkpoint.developmentCaseIds)
    "checkpoint attempt evaluation cases must match development_case_ids exactly"
  let refs ← expectedEvidenceRefs checkpoint.parentEvidence attempts
  require (checkpoint.developmentEvidenceRefs = refs)
    "checkpoint development_evidence_refs must match exact trial evidence"

/-- The part of `validate_consistency` about a submitted child. -/
def checkSubmitted (result : AVOCheckpointTerminalResult) (child : WorkspaceSnapshot)
    (attemptId : String) : Except String Unit := do
  require (child.candidateId = checkpoint.finalChildCandidateId)
    "checkpoint terminal child must match final_child_candidate_id"
  let attempt ← (checkpoint.evaluatedAttempts.find? (·.attemptId = attemptId)).elim
    (.error "checkpoint terminal attempt_id must reference an attempt") .ok
  require (attempt.revision = checkpoint.currentRevision)
    "checkpoint terminal attempt must match current_revision"
  require (attempt.evaluated.snapshot.SameMaterial child)
    "checkpoint terminal child must match exact evaluated attempt material"
  require (checkpoint.currentSnapshot.SameMaterial child)
    "checkpoint terminal child must match exact current material"
  require (¬ checkpoint.parentSnapshot.SameMaterial child)
    "checkpoint submitted child must differ from exact parent material"
  require (result.mutation = some attempt.mutation)
    "checkpoint terminal mutation must match exact evaluated attempt mutation"

/-- The part of `validate_consistency` about the terminal result. -/
def checkTerminal : Except String Unit :=
  checkpoint.terminalResult.elim (.ok ()) fun result => do
    result.check
    require (result.usage = checkpoint.usage)
      "checkpoint terminal result usage must match checkpoint usage"
    match result.child, result.attemptId with
    | some child, some attemptId => checkpoint.checkSubmitted result child attemptId
    | _, _ => .ok ()

/-- `validate_consistency`, after the validators of the fields. -/
def check : Except String Unit := do
  checkpoint.checkFields
  checkpoint.checkEffects
  checkpoint.checkParentEvidence
  checkpoint.checkManifests
  checkpoint.checkAttempts
  checkpoint.checkTerminal

/-! ## From a state and back -/

/-- The table of run manifests of some evidence. -/
def manifestsOf (candidates : List EvaluatedCandidate) :
    Except String (List (String × RunManifest)) :=
  (candidates.flatMap (·.observations)).foldlM (fun manifests observation => do
    let manifest ← observation.trial.runManifest.elim
      (.error "TrialRecord is not bound to a RunManifest") .ok
    match manifests.lookup manifest.runId with
    | none => return manifests ++ [(manifest.runId, manifest)]
    | some existing => do
      require (existing = manifest)
        "checkpoint evidence run_id resolves to different RunManifest content"
      return manifests) []

/-- What `from_state` demands of a terminal result. -/
def checkTerminalStatus (status : Option ProposalStatus)
    (result : Option AVOCheckpointTerminalResult) : Except String Unit :=
  match status, result with
  | none, none => .ok ()
  | none, some _ =>
    .error "checkpoint terminal result requires matching AVOState terminal_status"
  | some _, none => .error "AVOState terminal_status requires a checkpoint terminal result"
  | some status, some result =>
    require (status = result.status)
      "checkpoint terminal result status must match AVOState terminal_status"

end AVOCheckpoint

/-- What is persisted of a call besides its state. -/
structure CheckpointContext where
  runId : String
  selection : SelectionPlan
  developmentCaseIds : List String
  configurationIdentity : AVOConfigurationIdentity
  budget : AVOBudget

namespace AVOCheckpoint

/-- `from_state`. -/
def fromState (context : CheckpointContext) (state : AVOState)
    (parentEvidence : Option EvaluatedCandidate) (currentSnapshot : WorkspaceSnapshot)
    (incompleteExternalEffects : List AVOIncompleteExternalEffect)
    (terminalResult : Option AVOCheckpointTerminalResult) : Except String AVOCheckpoint := do
  let parentSnapshot ← state.parentSnapshot.elim
    (.error "AVOState must contain parent_snapshot for checkpointing") .ok
  checkTerminalStatus state.terminalStatus terminalResult
  let parentRecord ← parentEvidence.elim (.ok none) fun candidate =>
    some <$> AVOCheckpointEvaluatedCandidate.fromEvaluatedCandidate candidate
  let attempts ← state.attempts.mapM AVOCheckpointAttempt.fromAttempt
  let manifests ← manifestsOf (parentEvidence.toList ++ state.attempts.map (·.evaluated))
  let refs ← expectedEvidenceRefs parentRecord attempts
  let checkpoint : AVOCheckpoint := {
    runId := context.runId
    variationId := state.variationId
    parentCandidateId := state.parentCandidateId
    finalChildCandidateId := state.childCandidateId
    selection := context.selection
    developmentCaseIds := context.developmentCaseIds
    developmentEvidenceRefs := refs
    configurationIdentity := context.configurationIdentity
    parentSnapshot := parentSnapshot
    parentEvidence := parentRecord
    currentRevision := state.currentRevision
    currentSnapshot := currentSnapshot
    runManifests := manifests
    evaluatedAttempts := attempts
    bestAttemptId := state.bestAttemptId
    consecutiveWithoutProgress := state.consecutiveWithoutProgress
    consecutiveEvaluationErrors := state.consecutiveEvaluationErrors
    exhaustedDirectionRequested := state.exhaustedDirectionRequested
    budget := context.budget
    usage := state.usage
    structuredMemory := state.memory
    supervisionRecords := state.supervisionRecords
    incompleteExternalEffects := incompleteExternalEffects
    terminalResult := terminalResult }
  checkpoint.check
  return checkpoint

/-- What a document has from the state it was made of. -/
structure Documents (context : CheckpointContext) (state : AVOState)
    (parentEvidence : Option EvaluatedCandidate) (currentSnapshot : WorkspaceSnapshot)
    (incompleteExternalEffects : List AVOIncompleteExternalEffect)
    (terminalResult : Option AVOCheckpointTerminalResult) (checkpoint : AVOCheckpoint) :
    Prop where
  variationId : checkpoint.variationId = state.variationId
  parentCandidateId : checkpoint.parentCandidateId = state.parentCandidateId
  childCandidateId : checkpoint.finalChildCandidateId = state.childCandidateId
  parentSnapshot : state.parentSnapshot = some checkpoint.parentSnapshot
  parentRecord : (parentEvidence.elim (.ok none) fun candidate =>
    some <$> AVOCheckpointEvaluatedCandidate.fromEvaluatedCandidate candidate) =
      .ok checkpoint.parentEvidence
  currentRevision : checkpoint.currentRevision = state.currentRevision
  material : checkpoint.currentSnapshot = currentSnapshot
  attempts : state.attempts.mapM AVOCheckpointAttempt.fromAttempt =
    .ok checkpoint.evaluatedAttempts
  manifests : manifestsOf (parentEvidence.toList ++ state.attempts.map (·.evaluated)) =
    .ok checkpoint.runManifests
  bestAttemptId : checkpoint.bestAttemptId = state.bestAttemptId
  withoutProgress : checkpoint.consecutiveWithoutProgress = state.consecutiveWithoutProgress
  evaluationErrors : checkpoint.consecutiveEvaluationErrors = state.consecutiveEvaluationErrors
  direction : checkpoint.exhaustedDirectionRequested = state.exhaustedDirectionRequested
  usage : checkpoint.usage = state.usage
  memory : checkpoint.structuredMemory = state.memory
  records : checkpoint.supervisionRecords = state.supervisionRecords
  effects : checkpoint.incompleteExternalEffects = incompleteExternalEffects
  terminal : checkpoint.terminalResult = terminalResult
  status : checkTerminalStatus state.terminalStatus terminalResult = .ok ()
  checked : checkpoint.check = .ok ()

/-- **A document that can be made is one of the state it was made of.** -/
theorem fromState_eq_ok {context : CheckpointContext} {state : AVOState}
    {parentEvidence : Option EvaluatedCandidate} {currentSnapshot : WorkspaceSnapshot}
    {effects : List AVOIncompleteExternalEffect} {terminal : Option AVOCheckpointTerminalResult}
    {checkpoint : AVOCheckpoint}
    (h : fromState context state parentEvidence currentSnapshot effects terminal =
      .ok checkpoint) :
    Documents context state parentEvidence currentSnapshot effects terminal checkpoint := by
  simp only [fromState, bind_eq_ok, Unique.exists_iff, pure_eq_ok] at h
  obtain ⟨parentSnapshot, hparent, hterminal, parentRecord, hrecord, attempts, hattempts,
    manifests, hmanifests, refs, hrefs, hcheck, rfl⟩ := h
  have hparent : state.parentSnapshot = some parentSnapshot := by
    cases hs : state.parentSnapshot with
    | none => rw [hs] at hparent; cases hparent
    | some snapshot => rw [hs] at hparent; exact congrArg some (Except.ok.inj hparent)
  exact {
    variationId := rfl, parentCandidateId := rfl, childCandidateId := rfl
    parentSnapshot := hparent, parentRecord := hrecord
    currentRevision := rfl, material := rfl, attempts := hattempts
    manifests := hmanifests, bestAttemptId := rfl, withoutProgress := rfl
    evaluationErrors := rfl, direction := rfl, usage := rfl, memory := rfl, records := rfl
    effects := rfl, terminal := rfl, status := hterminal, checked := hcheck }

variable (checkpoint : AVOCheckpoint)

/-- `to_state`. -/
def toState : Except String AVOState := do
  let attempts ← checkpoint.evaluatedAttempts.mapM AVOCheckpointAttempt.toAttempt
  let state : AVOState := {
    variationId := checkpoint.variationId
    parentCandidateId := checkpoint.parentCandidateId
    childCandidateId := checkpoint.finalChildCandidateId
    currentRevision := checkpoint.currentRevision
    attempts := attempts
    bestAttemptId := checkpoint.bestAttemptId
    consecutiveWithoutProgress := checkpoint.consecutiveWithoutProgress
    consecutiveEvaluationErrors := checkpoint.consecutiveEvaluationErrors
    exhaustedDirectionRequested := checkpoint.exhaustedDirectionRequested
    supervisionRecords := checkpoint.supervisionRecords
    memory := checkpoint.structuredMemory
    usage := checkpoint.usage
    terminalStatus := checkpoint.terminalResult.map (·.status)
    parentSnapshot := some checkpoint.parentSnapshot }
  state.check
  return state

lemma toState_usage {checkpoint : AVOCheckpoint} {state : AVOState}
    (h : checkpoint.toState = .ok state) : state.usage = checkpoint.usage := by
  simp only [toState, bind_eq_ok, Unique.exists_iff, pure_eq_ok] at h
  obtain ⟨attempts, -, -, rfl⟩ := h
  rfl

/-! ## Writing and reading -/

/-- The evidence with every trial changed by `f`. -/
def mapTrials (f : TrialRecord → TrialRecord) : AVOCheckpoint :=
  let observation (item : AVOCheckpointObservation) := { item with trial := f item.trial }
  let candidate (item : AVOCheckpointEvaluatedCandidate) :=
    { item with observations := item.observations.map observation }
  { checkpoint with
    parentEvidence := checkpoint.parentEvidence.map candidate
    evaluatedAttempts := checkpoint.evaluatedAttempts.map fun attempt =>
      { attempt with evaluated := candidate attempt.evaluated } }

/-- The document after it is written and parsed: the trials have lost their extensions and the
manifests they were bound to. -/
def persisted : AVOCheckpoint :=
  checkpoint.mapTrials fun trial => { trial with runManifest := none, pendingExtensions := [] }

/-- `read_checkpoint`: the parsed document is validated, which binds its trials to the manifests
of their runs. -/
def read : Except String AVOCheckpoint := do
  let parsed := checkpoint.persisted
  let _ ← parsed.parentEvidence.elim (.ok ()) AVOCheckpointEvaluatedCandidate.check
  let _ ← parsed.evaluatedAttempts.mapM AVOCheckpointAttempt.check
  parsed.check
  return parsed.mapTrials fun trial =>
    { trial with runManifest := parsed.runManifests.lookup trial.runId }

lemma read_usage {document : AVOCheckpoint} (h : checkpoint.read = .ok document) :
    document.usage = checkpoint.usage := by
  simp only [read, bind_eq_ok, Unique.exists_iff, pure_eq_ok] at h
  obtain ⟨-, -, -, -, -, rfl⟩ := h
  rfl

/-- `terminal_result_from_checkpoint`. -/
def terminalProposal : Except String CandidateProposal := do
  let terminal ← checkpoint.terminalResult.elim (.error "checkpoint has no terminal result") .ok
  let attempt ← terminal.attemptId.elim (.ok none) fun attemptId => do
    let selected ← (checkpoint.evaluatedAttempts.find? (·.attemptId = attemptId)).elim
      (.error "checkpoint terminal attempt is missing") .ok
    some <$> selected.toAttempt
  let proposal : CandidateProposal := {
    status := terminal.status
    child := terminal.child
    mutation := terminal.mutation
    reasoning := terminal.reasoning
    usage := terminal.usage
    attempt := attempt
    memory := checkpoint.structuredMemory }
  proposal.check
  return proposal

/-- `require_resumable_checkpoint`: the document is of the requested call. -/
def requireResumable (context : CheckpointContext) (variationId childCandidateId : String)
    (parent : WorkspaceSnapshot) : Except String Unit := do
  let _ ← checkpoint.read
  require (checkpoint.runId = context.runId)
    "checkpoint run_id does not match the requested run_id"
  require (checkpoint.variationId = variationId)
    "checkpoint variation_id does not match the requested variation_id"
  require (checkpoint.parentCandidateId = parent.candidateId)
    "checkpoint parent candidate ID does not match the requested parent"
  require (checkpoint.parentSnapshot.SameMaterial parent)
    "checkpoint parent material does not match the requested parent"
  require (checkpoint.finalChildCandidateId = childCandidateId)
    "checkpoint final child candidate ID does not match the request"
  require (checkpoint.selection = context.selection)
    "checkpoint selection does not match the requested selection"
  require (checkpoint.developmentCaseIds = context.developmentCaseIds)
    "checkpoint development case IDs or order do not match the request"
  require (checkpoint.budget = context.budget)
    "checkpoint budget does not match the requested budget"
  require (checkpoint.configurationIdentity = context.configurationIdentity)
    "checkpoint configuration identity does not match the request"

end AVOCheckpoint

end AecBench.Evolution
