import AecBench.Contracts.Identity
import AecBench.Lib.PyValue
import AecBench.Lib.Validation

/-!
# The resolved condition of a run

What a run was asked to do: the exact task releases, the agent conditions, the compute settings
and the number of repetitions. Fields of type `Any` hold Python values; a record that was written
as a JSON document is read back with lists in place of their tuples.

## Main definitions

* `TaskSnapshotRef`, `AgentCondition`, `ComputeConfig` — the parts of a condition.
* `ResolvedRunSpec` — the condition of one run; `ResolvedRunSpec.errors` — its validation.
* `ResolvedRunSpec.dumped` — the record after it was written and read.

## Main results

* `ResolvedRunSpec.parts` — what a valid condition satisfies.
-/

namespace AecBench.Contracts

open Validation

/-- An aware timestamp, in microseconds of the instant it names. -/
abbrev Instant := ℤ

/-! ## Parts -/

/-- Exact bytes retained by a repository. -/
structure ArtifactRef where
  artifactId : String
  sha256 : String
  sizeBytes : ℕ+
  mediaType : String
  deriving DecidableEq

/-- Where a runnable task is retained. -/
inductive TaskSource
  | repository (sourceRevision taskPath : String)
  | artifact (artifact : ArtifactRef)
  deriving DecidableEq

/-- One exact runnable task. -/
structure TaskSnapshotRef where
  taskIdentity : EntityIdentity
  source : TaskSource
  deriving DecidableEq

/-- The task id, which the record checks to be the key of its identity. -/
def TaskSnapshotRef.taskId (release : TaskSnapshotRef) : String := release.taskIdentity.key.text

/-- One explicit, versioned agent condition. -/
structure AgentCondition where
  identity : EntityIdentity
  adapter : String
  model : String
  /-- The client, the system prompt and the versions of the tools. -/
  settings : PyFields := .nil
  parameters : PyFields := .nil
  limits : PyFields := .nil
  deriving DecidableEq

structure ComputeConfig where
  backend : String
  stream : Bool := false
  resourceLimits : PyFields := .nil
  timeoutOverride : Option ℕ+ := none
  deriving DecidableEq

structure EvaluationRegimeRef where
  regimeId : String
  artifact : ArtifactRef
  deriving DecidableEq

inductive Visibility
  | «public»
  | «private»
  | holdout
  deriving DecidableEq

inductive AuthorityEvidenceKind
  | actorInvocation
  | world
  | lifecycle
  | provider
  | evaluation
  deriving DecidableEq

structure AuthorityExpectation where
  authorityKind : AuthorityEvidenceKind
  protocol : String
  required : Bool := true
  deriving DecidableEq

/-- What tells two expectations apart. -/
def AuthorityExpectation.key (item : AuthorityExpectation) : AuthorityEvidenceKind × String :=
  (item.authorityKind, item.protocol)

/-! ## The condition -/

/-- One complete requested run condition. -/
structure ResolvedRunSpec where
  experimentIdentity : EntityIdentity
  runIdentity : EntityIdentity
  createdAt : Instant
  taskReleases : List TaskSnapshotRef
  agentConditions : List AgentCondition
  compute : ComputeConfig
  repetitions : ℕ+
  randomizationSeed : Option ℕ := none
  visibility : List Visibility
  expectedAuthorities : List AuthorityExpectation := []
  evaluationRegime : Option EvaluationRegimeRef := none
  /-- The fields that are only compared: name, author, data set, reviewer and policies. -/
  rest : PyFields := .nil
  deriving DecidableEq

namespace ResolvedRunSpec

def checkVisibility (value : List Visibility) : Except String Unit := do
  require (value ≠ []) "resolved run visibility must include at least one value"
  require value.Nodup "resolved run visibility values must be unique"

/-- The identities of a condition, its releases and its agent conditions. -/
def checkIdentityRelationships (spec : ResolvedRunSpec) : Except String Unit := do
  require (spec.experimentIdentity.id ≠ spec.runIdentity.id)
    "resolved run experiment and run identities must be distinct"
  require (spec.taskReleases ≠ []) "resolved run requires at least one task release"
  require (spec.taskReleases.map (·.taskId)).Nodup "resolved run task releases must be unique"
  require (spec.taskReleases.map (·.taskIdentity.id)).Nodup
    "resolved run task identities must be unique"
  require (spec.agentConditions ≠ []) "resolved run requires at least one agent condition"
  require (spec.agentConditions.map (·.identity.key)).Nodup
    "resolved run agent conditions must be unique"
  require (spec.agentConditions.map (·.identity.id)).Nodup
    "resolved run agent condition identities must be unique"

def errors (spec : ResolvedRunSpec) : Errors :=
  record
    [("visibility", ofCheck (checkVisibility spec.visibility)),
     ("expected_authorities",
      ofCheck (require (spec.expectedAuthorities.map (·.key)).Nodup
        "resolved run authority expectations must be unique"))]
    spec.checkIdentityRelationships

/-- What a valid condition satisfies. -/
structure Parts (spec : ResolvedRunSpec) : Prop where
  visibility : spec.visibility ≠ []
  visibilities : spec.visibility.Nodup
  authorities : (spec.expectedAuthorities.map (·.key)).Nodup
  distinct : spec.experimentIdentity.id ≠ spec.runIdentity.id
  releases : spec.taskReleases ≠ []
  taskIds : (spec.taskReleases.map (·.taskId)).Nodup
  taskIdentities : (spec.taskReleases.map (·.taskIdentity.id)).Nodup
  conditions : spec.agentConditions ≠ []
  conditionKeys : (spec.agentConditions.map (·.identity.key)).Nodup
  conditionIds : (spec.agentConditions.map (·.identity.id)).Nodup

lemma parts {spec : ResolvedRunSpec} (h : spec.errors = []) : spec.Parts := by
  rw [errors, record_eq_nil] at h
  obtain ⟨hfields, hwhole⟩ := h
  simp only [List.forall_mem_cons, ofCheck_eq_nil, checkVisibility, require_bind_eq_ok,
    require_eq_ok] at hfields
  simp only [checkIdentityRelationships, require_bind_eq_ok, require_eq_ok] at hwhole
  obtain ⟨⟨-, hvisibility, hvisibilities⟩, ⟨-, hauthorities⟩, -⟩ := hfields
  obtain ⟨hdistinct, hreleases, htaskIds, htaskIdentities, hconditions, hkeys, hids⟩ := hwhole
  exact ⟨hvisibility, hvisibilities, hauthorities, hdistinct, hreleases, htaskIds, htaskIdentities,
    hconditions, hkeys, hids⟩

end ResolvedRunSpec

/-! ## Records that are read back -/

def AgentCondition.dumped (condition : AgentCondition) : AgentCondition :=
  { condition with
    parameters := condition.parameters.dumped
    limits := condition.limits.dumped }

def ComputeConfig.dumped (compute : ComputeConfig) : ComputeConfig :=
  { compute with resourceLimits := compute.resourceLimits.dumped }

/-- The condition after it was written as a JSON document and read. -/
def ResolvedRunSpec.dumped (spec : ResolvedRunSpec) : ResolvedRunSpec :=
  { spec with
    agentConditions := spec.agentConditions.map AgentCondition.dumped
    compute := spec.compute.dumped }

end AecBench.Contracts
