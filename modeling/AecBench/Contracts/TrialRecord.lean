import AecBench.Contracts.RunPlan

/-!
# Trial records

The record of one trial, bound to the manifest of its run. What is written of a record leaves out
the manifest and what the process attached to it, and writes each timestamp with its offset from
UTC, which does not count when timestamps are compared.

## Main definitions

* `RunManifest`, `TrialInput`, `PlannedTrialBinding` — what a record holds or is bound to.
* `TrialValue` — the record up to equality; `TrialRecord` — the record.
* `TrialRecord.errors` — what is wrong with a record.
* `TrialRecord.Same` — equality of two records; `TrialRecord.dump` — what is written of a record.
-/

namespace AecBench.Contracts

open Validation

inductive ExecutionStatus
  | planned
  | running
  | completed
  | failed
  | cancelled
  | invalid
  deriving DecidableEq

inductive EvaluationStatus
  | notRequested
  | pending
  | completed
  | invalid
  | failed
  deriving DecidableEq

inductive EvidenceStatus
  | notRequired
  | pending
  | verified
  | incomplete
  | invalid
  deriving DecidableEq

/-- The manifest that the trials of one run share. -/
structure RunManifest where
  runId : String
  experimentId : String
  /-- The key of the data set. -/
  dataset : Option String := none
  adapter : String
  model : String
  computeBackend : String
  expectedAuthorities : List AuthorityExpectation := []
  evaluationRegime : Option EvaluationRegimeRef := none
  /-- The fields that are only compared and written. -/
  rest : PyFields := .nil
  deriving DecidableEq

structure TrialInput where
  taskRevision : String
  taskKind : TrialTaskKind := .artifact
  visibility : Option Visibility := none
  /-- The instruction, the system prompt and the input files. -/
  rest : PyFields := .nil
  deriving DecidableEq

/-- The exact binding from a result to its planned trial. -/
structure PlannedTrialBinding where
  runIdentity : EntityIdentity
  trialIdentity : EntityIdentity
  taskRelease : TaskSnapshotRef
  agentConditionIdentity : EntityIdentity
  ordinal : ℕ+
  repetition : ℕ+
  compute : ComputeConfig
  familyRelease : Option FamilyExecutionRelease
  executionFamily : TrialTaskKind
  evaluationProfile : Option EvaluationRegimeRef
  expectedAuthorities : List AuthorityExpectation
  deriving DecidableEq

/-- `validate_expected_authorities` of a binding. -/
def PlannedTrialBinding.errors (binding : PlannedTrialBinding) : Errors :=
  record
    [("expected_authorities",
      ofCheck (require (binding.expectedAuthorities.map (·.key)).Nodup
        "planned trial authority identities must be unique"))]
    (.ok ())

/-- What is compared when two records are. -/
structure TrialValue where
  trialId : String
  runId : String
  taskId : String
  binding : Option PlannedTrialBinding
  attempt : ℕ+
  executionStatus : ExecutionStatus
  evaluationStatus : EvaluationStatus
  evidenceStatus : EvidenceStatus
  startedAt : Instant
  completedAt : Option Instant
  input : TrialInput
  /-- The output, the evaluation, the timing, the costs and the references. -/
  rest : PyFields
  manifest : RunManifest
  /-- What the process attached: extension values, pending artifacts and paths of outputs. -/
  attached : PyFields
  deriving DecidableEq

/-- A record bound to its manifest. -/
structure TrialRecord where
  value : TrialValue
  /-- The offsets from UTC with which the timestamps of the record are written. -/
  offsets : List ℤ

namespace TrialRecord

/-- Equality of records: timestamps are compared as instants. -/
def Same (r s : TrialRecord) : Prop := r.value = s.value

instance (r s : TrialRecord) : Decidable (r.Same s) := inferInstanceAs (Decidable (r.value = s.value))

/-- `validate_statuses`, as far as it is about the planned trial. -/
def validateBinding (r : TrialRecord) : Option PlannedTrialBinding → Except String Unit
  | none => .ok ()
  | some binding => do
    require (binding.trialIdentity.id.text = r.value.trialId)
      "planned trial binding trial identity does not match trial_id"
    require (binding.runIdentity.id.text = r.value.runId)
      "planned trial binding run identity does not match run_id"
    require (binding.taskRelease.taskId = r.value.taskId)
      "planned trial binding task release does not match task_id"
    require (binding.executionFamily = r.value.input.taskKind)
      "planned trial binding execution family does not match task kind"

/-- `bind_run_manifest`, as far as it is about the planned trial. -/
def bindManifest (r : TrialRecord) : Except String Unit := do
  require (r.value.manifest.runId = r.value.runId) "trial run_id does not match the run manifest"
  require (∀ binding ∈ r.value.binding,
      binding.expectedAuthorities = r.value.manifest.expectedAuthorities)
    "planned trial binding authority policy does not match the run manifest"
  require (∀ binding ∈ r.value.binding,
      binding.evaluationProfile = r.value.manifest.evaluationRegime)
    "planned trial binding evaluation profile does not match the run manifest"

/-- What is wrong with a record. -/
def errors (r : TrialRecord) : Errors :=
  Validation.record
    [("planned_trial_binding", optional PlannedTrialBinding.errors r.value.binding)]
    (do
      r.validateBinding r.value.binding
      r.bindManifest)

end TrialRecord

/-! ## What is written -/

def PlannedTrialBinding.dumped (binding : PlannedTrialBinding) : PlannedTrialBinding :=
  { binding with compute := binding.compute.dumped }

/-- What `model_dump(mode="json")` gives of a record. -/
structure TrialDump where
  trialId : String
  runId : String
  taskId : String
  binding : Option PlannedTrialBinding
  attempt : ℕ+
  executionStatus : ExecutionStatus
  evaluationStatus : EvaluationStatus
  evidenceStatus : EvidenceStatus
  startedAt : Instant
  completedAt : Option Instant
  offsets : List ℤ
  input : TrialInput
  rest : PyFields
  deriving DecidableEq

/-- `model_dump(mode="json")`: without the manifest and what was attached. -/
def TrialRecord.dump (r : TrialRecord) : TrialDump where
  trialId := r.value.trialId
  runId := r.value.runId
  taskId := r.value.taskId
  binding := r.value.binding.map PlannedTrialBinding.dumped
  attempt := r.value.attempt
  executionStatus := r.value.executionStatus
  evaluationStatus := r.value.evaluationStatus
  evidenceStatus := r.value.evidenceStatus
  startedAt := r.value.startedAt
  completedAt := r.value.completedAt
  offsets := r.offsets
  input := { r.value.input with rest := r.value.input.rest.dumped }
  rest := r.value.rest.dumped

end AecBench.Contracts
