import Mathlib.Data.List.Induction
import Mathlib.Data.Multiset.Replicate
import AecBench.Contracts.ResolvedRun

/-!
# Run plans

A plan lists the trials of one run in order, with counts that describe them. A draft may be
incomplete; a plan is ready when its trials are in order and agree with the counts. A `dict` of
positive counts is the multiset it counts.

## Main definitions

* `PlannedTrial`, `RunPlanSummary`, `RunPlan` — the records, each with its validation.
* `TaskPlanningProfile` — what is known of a task when its run is planned.
* `RunPlan.validateReadyTrials` — the validation of the trials of a ready plan.

## Main results

* `RunPlan.errors_eq_nil` — when a plan is valid.
* `RunPlan.validatePlan_eq_ok` — when a ready plan passes its own validation.
-/

namespace AecBench.Contracts

open Validation

/-! ## Trials -/

/-- What kind of work a trial is. -/
inductive TrialTaskKind
  | artifact
  | lifecycle
  | world
  deriving DecidableEq

/-- The release of a world or a lifecycle, compared whole. -/
inductive FamilyExecutionRelease
  | world (release : PyFields)
  | lifecycle (release : PyFields)
  deriving DecidableEq

inductive Lifecycle
  | proposed
  | active
  | deprecated
  | retired
  deriving DecidableEq

structure TaskMetadata where
  identity : EntityIdentity
  lifecycle : Lifecycle
  visibility : Visibility
  deriving DecidableEq

/-- A task that can still be run. -/
def Lifecycle.Runnable (lifecycle : Lifecycle) : Prop :=
  lifecycle = .active ∨ lifecycle = .deprecated

instance (lifecycle : Lifecycle) : Decidable lifecycle.Runnable :=
  inferInstanceAs (Decidable (_ ∨ _))

inductive AttemptRecipe
  | singleAttempt
  | bestOf (candidates : ℕ+)
  deriving DecidableEq

/-- A typed extension of a trial: the only supported kind is `adaptation`. -/
structure PlannedTrialExtension where
  extensionKind : EntityKey
  value : PyFields
  deriving DecidableEq

/-- One exact ordered unit of work. -/
structure PlannedTrial where
  trialIdentity : EntityIdentity
  ordinal : ℕ+
  runIdentity : EntityIdentity
  taskRelease : TaskSnapshotRef
  taskMetadata : TaskMetadata
  agentCondition : AgentCondition
  compute : ComputeConfig
  repetition : ℕ+
  seed : Option ℕ
  executionFamily : TrialTaskKind
  familyRelease : Option FamilyExecutionRelease
  attemptRecipe : AttemptRecipe
  evaluationProfile : Option EvaluationRegimeRef
  extensions : List PlannedTrialExtension
  deriving DecidableEq

/-- `validate_references` of a trial. The versions of its identities are positive by type. -/
def PlannedTrial.validateReferences (trial : PlannedTrial) : Except String Unit := do
  require (trial.taskMetadata.identity = trial.taskRelease.taskIdentity)
    "planned trial task metadata must match the task release"
  require trial.taskMetadata.lifecycle.Runnable
    "planned trial requires an active or deprecated task release"
  require (trial.extensions.map (·.extensionKind)).Nodup
    "planned trial extension kinds must be unique"

def PlannedTrialExtension.errors (extension : PlannedTrialExtension) : Errors :=
  record [] <| require (extension.extensionKind.text = "adaptation")
    s!"unsupported planned trial extension: {extension.extensionKind.text}"

def PlannedTrial.errors (trial : PlannedTrial) : Errors :=
  record [("extensions", each PlannedTrialExtension.errors trial.extensions)]
    trial.validateReferences

/-! ## Plans -/

/-- Counts that describe a plan. -/
structure RunPlanSummary where
  selectedTaskCount : ℕ+
  agentConditionCount : ℕ+
  repetitions : ℕ+
  totalTrials : ℕ+
  trialsByExecutionFamily : Multiset TrialTaskKind
  trialsByBackend : Multiset String
  visibilityPolicy : List Visibility
  tasksByVisibility : Multiset Visibility
  deprecatedTaskCount : ℕ
  deriving DecidableEq

def RunPlanSummary.errors (summary : RunPlanSummary) : Errors :=
  record
    [("visibility_policy", ofCheck do
      require (summary.visibilityPolicy ≠ []) "run plan visibility policy must not be empty"
      require summary.visibilityPolicy.Nodup "run plan visibility policy must be unique")]
    (.ok ())

inductive RunPlanState
  | draft
  | ready
  | started
  | closed
  deriving DecidableEq

/-- One ordered plan for a resolved run. -/
structure RunPlan where
  planIdentity : EntityIdentity
  runIdentity : EntityIdentity
  createdAt : Instant
  state : RunPlanState
  trials : List PlannedTrial
  summary : RunPlanSummary
  deriving DecidableEq

/-- The release that a trial of a family must have. -/
def checkFamilyRelease (family : TrialTaskKind) (release : Option FamilyExecutionRelease)
    (artifactMessage worldMessage lifecycleMessage : String) : Except String Unit :=
  match family, release with
  | .artifact, some _ => .error artifactMessage
  | .world, some (.lifecycle _) => .error worldMessage
  | .world, none => .error worldMessage
  | .lifecycle, some (.world _) => .error lifecycleMessage
  | .lifecycle, none => .error lifecycleMessage
  | _, _ => .ok ()

/-- The metadata of the tasks of some trials, the first of each identity. -/
def taskMetadataOf (trials : List PlannedTrial) : List TaskMetadata :=
  trials.foldl (fun seen trial =>
    if trial.taskMetadata.identity.id ∈ seen.map (·.identity.id) then seen
    else seen ++ [trial.taskMetadata]) []

/-- What the metadata of the tasks of some trials is. -/
structure CollectsMetadata (trials : List PlannedTrial) (metadata : List TaskMetadata) : Prop where
  nodup : (metadata.map (·.identity.id)).Nodup
  sound : ∀ m ∈ metadata, ∃ trial ∈ trials, trial.taskMetadata = m
  complete : ∀ trial ∈ trials, trial.taskMetadata.identity.id ∈ metadata.map (·.identity.id)

lemma collectsMetadata (trials : List PlannedTrial) :
    CollectsMetadata trials (taskMetadataOf trials) := by
  induction trials using List.reverseRecOn with
  | nil => exact ⟨List.nodup_nil, by simp [taskMetadataOf], by simp⟩
  | append_singleton trials trial ih =>
    unfold taskMetadataOf at ih ⊢
    rw [List.foldl_append, List.foldl_cons, List.foldl_nil]
    generalize trials.foldl _ _ = seen at ih ⊢
    by_cases hseen : trial.taskMetadata.identity.id ∈ seen.map (·.identity.id)
    · rw [if_pos hseen]
      refine ⟨ih.nodup, fun m hm => ?_, fun t ht => ?_⟩
      · obtain ⟨t, ht, htm⟩ := ih.sound m hm
        exact ⟨t, List.mem_append_left _ ht, htm⟩
      · rcases List.mem_append.mp ht with ht | ht
        · exact ih.complete t ht
        · rwa [List.mem_singleton.mp ht]
    · rw [if_neg hseen]
      refine ⟨?_, fun m hm => ?_, fun t ht => ?_⟩
      · rw [List.map_append, List.nodup_append']
        refine ⟨ih.nodup, List.nodup_singleton _, ?_⟩
        simpa [List.disjoint_singleton] using hseen
      · rcases List.mem_append.mp hm with hm | hm
        · obtain ⟨t, ht, htm⟩ := ih.sound m hm
          exact ⟨t, List.mem_append_left _ ht, htm⟩
        · exact ⟨trial, by simp, (List.mem_singleton.mp hm).symm⟩
      · rw [List.map_append]
        rcases List.mem_append.mp ht with ht | ht
        · exact List.mem_append_left _ (ih.complete t ht)
        · rw [List.mem_singleton.mp ht]
          exact List.mem_append_right _ (by simp)

namespace RunPlan

/-- The families of the trials have their releases. -/
def checkFamilies (trials : List PlannedTrial) : Except String Unit :=
  trials.forM fun trial => checkFamilyRelease trial.executionFamily trial.familyRelease
    "ready artifact trial must not have a family release"
    "ready world trial requires a world release"
    "ready lifecycle trial requires a lifecycle release"

/-- The counts of the summary that are read off the trials one by one. -/
def checkCounts (plan : RunPlan) : Except String Unit := do
  require ((plan.summary.selectedTaskCount : ℕ) =
      (plan.trials.map (·.taskRelease.taskId)).dedup.length)
    "run plan summary task count does not match trials"
  require ((plan.summary.agentConditionCount : ℕ) =
      (plan.trials.map (·.agentCondition.identity.id)).dedup.length)
    "run plan summary agent count does not match trials"
  require ((plan.summary.totalTrials : ℕ) = plan.trials.length)
    "run plan summary total does not match trials"
  require ((plan.trials.map fun trial => (trial.repetition : ℕ)).max? =
      some (plan.summary.repetitions : ℕ))
    "run plan summary repetitions do not match trials"
  require (plan.summary.trialsByExecutionFamily = (plan.trials.map (·.executionFamily) : Multiset _))
    "run plan summary execution-family counts do not match trials"
  require (plan.summary.trialsByBackend = (plan.trials.map (·.compute.backend) : Multiset _))
    "run plan summary backend counts do not match trials"

/-- The counts of the summary that are read off the metadata of the tasks. -/
def checkMetadata (plan : RunPlan) : Except String Unit := do
  let metadata := taskMetadataOf plan.trials
  require (∀ trial ∈ plan.trials, trial.taskMetadata ∈ metadata)
    "ready run plan task metadata must be consistent"
  require (plan.summary.tasksByVisibility = (metadata.map (·.visibility) : Multiset _))
    "run plan summary visibility counts do not match trials"
  require (plan.summary.deprecatedTaskCount = metadata.countP (·.lifecycle = .deprecated))
    "run plan summary deprecated task count does not match trials"
  require (∀ m ∈ metadata, m.visibility ∈ plan.summary.visibilityPolicy)
    "ready run plan task visibility is outside the plan policy"

/-- `_validate_ready_trials`. -/
def validateReadyTrials (plan : RunPlan) : Except String Unit := do
  require (plan.trials.map (fun trial => (trial.ordinal : ℕ)) =
      List.range' 1 plan.trials.length)
    "ready run plan trial ordinals must be contiguous from 1"
  require (plan.trials.map (·.trialIdentity.id)).Nodup
    "ready run plan trial identities must be unique"
  require (plan.trials.map (·.trialIdentity.key)).Nodup "ready run plan trial keys must be unique"
  require (∀ trial ∈ plan.trials, trial.runIdentity = plan.runIdentity)
    "ready run plan trials must reference the plan run identity"
  checkFamilies plan.trials
  plan.checkCounts
  plan.checkMetadata

/-- `validate_plan`. -/
def validatePlan (plan : RunPlan) : Except String Unit := do
  require (plan.planIdentity.id ≠ plan.runIdentity.id)
    "run plan and run identities must be distinct"
  require (plan.trials ≠ []) "run plan must include at least one planned trial"
  if plan.state = .ready then plan.validateReadyTrials else .ok ()

def errors (plan : RunPlan) : Errors :=
  record [("trials", each PlannedTrial.errors plan.trials), ("summary", plan.summary.errors)]
    plan.validatePlan

lemma errors_eq_nil {plan : RunPlan} :
    plan.errors = [] ↔ (∀ trial ∈ plan.trials, trial.errors = []) ∧ plan.summary.errors = [] ∧
      plan.validatePlan = .ok () := by
  rw [errors, record_eq_nil]
  simp [and_assoc]

/-- What the trials of a ready plan satisfy. -/
structure ReadyParts (plan : RunPlan) : Prop where
  distinct : plan.planIdentity.id ≠ plan.runIdentity.id
  trials : plan.trials ≠ []
  ordinals : plan.trials.map (fun trial => (trial.ordinal : ℕ)) =
    List.range' 1 plan.trials.length
  ids : (plan.trials.map (·.trialIdentity.id)).Nodup
  keys : (plan.trials.map (·.trialIdentity.key)).Nodup
  run : ∀ trial ∈ plan.trials, trial.runIdentity = plan.runIdentity
  families : checkFamilies plan.trials = .ok ()
  counts : plan.checkCounts = .ok ()
  metadata : plan.checkMetadata = .ok ()

lemma validatePlan_eq_ok {plan : RunPlan} (h : plan.state = .ready) :
    plan.validatePlan = .ok () ↔ plan.ReadyParts := by
  simp only [validatePlan, h, if_true, validateReadyTrials, require_bind_eq_ok]
  constructor
  · rintro ⟨hdistinct, htrials, hordinals, hids, hkeys, hrun, hrest⟩
    obtain ⟨hfamilies, hrest⟩ := unit_bind_eq_ok.mp hrest
    obtain ⟨hcounts, hmetadata⟩ := unit_bind_eq_ok.mp hrest
    exact ⟨hdistinct, htrials, hordinals, hids, hkeys, hrun, hfamilies, hcounts, hmetadata⟩
  · intro hparts
    exact ⟨hparts.distinct, hparts.trials, hparts.ordinals, hparts.ids, hparts.keys, hparts.run,
      unit_bind_eq_ok.mpr ⟨hparts.families, unit_bind_eq_ok.mpr ⟨hparts.counts, hparts.metadata⟩⟩⟩

end RunPlan

/-! ## Records that are read back -/

def PlannedTrial.dumped (trial : PlannedTrial) : PlannedTrial :=
  { trial with
    agentCondition := trial.agentCondition.dumped
    compute := trial.compute.dumped
    extensions := trial.extensions.map fun e => { e with value := e.value.dumped } }

/-- The plan after it was written as a JSON document and read. -/
def RunPlan.dumped (plan : RunPlan) : RunPlan :=
  { plan with trials := plan.trials.map PlannedTrial.dumped }

/-! ## Planning profiles -/

/-- Task metadata that makes one release ready for planning. -/
structure TaskPlanningProfile where
  metadata : TaskMetadata
  executionFamily : TrialTaskKind
  familyRelease : Option FamilyExecutionRelease

/-- `validate_runnable_lifecycle`. -/
def TaskPlanningProfile.validateRunnableLifecycle (profile : TaskPlanningProfile) :
    Except String Unit := do
  require profile.metadata.lifecycle.Runnable
    "run planning requires an active or deprecated task release"
  checkFamilyRelease profile.executionFamily profile.familyRelease
    "artifact planning profile must not have a family release"
    "world planning profile requires a world release"
    "lifecycle planning profile requires a lifecycle release"

def TaskPlanningProfile.errors (profile : TaskPlanningProfile) : Errors :=
  record [] profile.validateRunnableLifecycle

end AecBench.Contracts
