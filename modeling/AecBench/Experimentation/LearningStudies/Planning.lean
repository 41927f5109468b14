import Mathlib.Data.String.Basic
import AecBench.Contracts.LearningStudy
import AecBench.Lib.Table
import AecBench.Lib.Validation

/-!
# Planning a learning study

A written study is compiled into arm runs, one for each repetition and arm, before anything runs:
references and the order of steps are checked, tasks are resolved, and every experience becomes a
planned trial. An arm run keeps the steps of its arm in their order.

## Main definitions

* `validateReferences`, `validateMeasurements` — what is checked of a study.
* `PlannedArmRun`, `CompiledLearningStudy` — what is planned; `compileLearningStudy` — how.

## Main results

* `step_ids_of_compile` — the steps of a planned arm run have different ids.
* `arm_run_ids_of_compile` — the arm runs of a plan have different ids.
-/

namespace AecBench.Experimentation.LearningStudies

open Validation Contracts.LearningStudy

/-! ## Errors -/

inductive LearningStudyErrorKind
  | specInvalid
  | referenceInvalid
  | orderInvalid
  | taskResolutionFailed
  | planCollision
  /-- A `KeyError`; the references are validated before they are looked up. -/
  | lookup
  deriving DecidableEq

structure LearningStudyError where
  kind : LearningStudyErrorKind
  message : String
  deriving DecidableEq

/-! ## Checks -/

/-- The characters of `_SAFE_ID`, with `first` those it starts with. -/
def safeChar (first : Bool) (c : Char) : Bool :=
  c.isAlphanum || (!first && (c = '.' || c = '_' || c = '-'))

/-- `_SAFE_ID.fullmatch(value)` -/
def safeId (value : String) : Bool :=
  match value.toList with
  | [] => false
  | c :: cs => safeChar true c && cs.all (safeChar false)

/-- `_validate_safe_id` -/
def validateSafeId (label value context : String) : Except LearningStudyError PUnit :=
  require (safeId value = true)
    ⟨.specInvalid, s!"{context}: {label} id must start with an alphanumeric character and contain " ++
      s!"only letters, numbers, '.', '_', or '-': {Text.repr value}"⟩

/-- `sorted(required - known)`, as texts. -/
def missingIds (required known : List String) : List String :=
  (required.filter (· ∉ known)).dedup.insertionSort (· ≤ ·)

/-- The `repr` of a list of texts. -/
def reprList (values : List String) : String :=
  "[" ++ ", ".intercalate (values.map Text.repr) ++ "]"

section References

variable (spec : LearningStudySpec)

abbrev experienceIds : List String := spec.experiences.map (·.experienceId.val)

def lookupExperience (experienceId : String) : Option LearningExperienceSpec :=
  Table.lookup (·.experienceId.val) experienceId spec.experiences

/-- The checks of one relation. -/
def validateRelation (relation : ExperienceRelationSpec) : Except LearningStudyError PUnit := do
  let missing := missingIds (relation.sourceExperienceIds.map (·.val) ++
    [relation.targetExperienceId.val]) (experienceIds spec)
  require (missing = []) ⟨.referenceInvalid, s!"study {spec.studyId.val} relation " ++
    s!"{relation.relationId.val} references unknown experiences: {reprList missing}"⟩
  require ((lookupExperience spec relation.targetExperienceId.val).map (·.role) = some .probe)
    ⟨.referenceInvalid, s!"study {spec.studyId.val} relation {relation.relationId.val} target " ++
      "must be a probe"⟩

/-- What the steps of an arm have run and released so far. -/
structure ArmScan where
  seenExperiences : List String
  seenFeedback : List String
  releasedViews : List (String × String)

/-- The checks of one step, after the steps before it. -/
def validateStep (arm : LearningArmSpec) (scan : ArmScan) (step : LearningStudyStep) :
    Except LearningStudyError ArmScan := do
  let context := s!"study {spec.studyId.val} arm {arm.armId.val}"
  validateSafeId "step" step.stepId.val context
  match step with
  | .runExperience step =>
    require (step.experienceId.val ∈ experienceIds spec)
      ⟨.referenceInvalid, s!"{context} step {step.stepId.val} references unknown experience " ++
        step.experienceId.val⟩
    require (step.experienceId.val ∉ scan.seenExperiences)
      ⟨.orderInvalid, s!"{context} step {step.stepId.val}: experience {step.experienceId.val} " ++
        "already ran in this arm"⟩
    pure { scan with seenExperiences := step.experienceId.val :: scan.seenExperiences }
  | .releaseFeedback step =>
    match lookupExperience spec step.sourceExperienceId.val with
    | none => .error ⟨.referenceInvalid, s!"{context} step {step.stepId.val} references unknown " ++
        s!"experience {step.sourceExperienceId.val}"⟩
    | some source =>
      require (step.sourceExperienceId.val ∈ scan.seenExperiences)
        ⟨.orderInvalid, s!"{context} step {step.stepId.val}: feedback source has not run"⟩
      require (source.role ≠ .probe)
        ⟨.orderInvalid, s!"{context} step {step.stepId.val}: probe feedback cannot be released"⟩
      let releaseKey := (step.sourceExperienceId.val, step.feedbackViewId.val)
      require (releaseKey ∉ scan.releasedViews)
        ⟨.orderInvalid, s!"{context} step {step.stepId.val}: feedback view was already released"⟩
      pure { scan with
        releasedViews := releaseKey :: scan.releasedViews
        seenFeedback := step.stepId.val :: scan.seenFeedback }
  | .consolidate step =>
    let missing := missingIds (step.feedbackStepIds.map (·.val)) scan.seenFeedback
    require (missing = []) ⟨.orderInvalid, s!"{context} step {step.stepId.val}: feedback steps " ++
      s!"are not available: {reprList missing}"⟩
    pure scan

/-- `_validate_references` -/
def validateReferences : Except LearningStudyError PUnit := do
  for identity in spec.studyId.val :: experienceIds spec ++ spec.arms.map (·.armId.val) do
    validateSafeId "study" identity s!"study {spec.studyId.val}"
  for relation in spec.relations do
    validateRelation spec relation
  for arm in spec.arms do
    let _ ← arm.steps.foldlM (validateStep spec arm) ⟨[], [], []⟩

/-- The experiences that an arm runs. -/
def LearningArmSpec.ranExperiences (arm : LearningArmSpec) : List String :=
  arm.steps.filterMap fun
    | .runExperience step => some step.experienceId.val
    | _ => none

/-- The checks of one measurement. -/
def validateMeasurement (measurement : LearningMeasurementSpec) :
    Except LearningStudyError PUnit := do
  let context := s!"study {spec.studyId.val}"
  let measured := s!"{context} measurement {measurement.measurementId.val}"
  validateSafeId "measurement" measurement.measurementId.val context
  require ((lookupExperience spec measurement.targetExperienceId.val).map (·.role) = some .probe)
    ⟨.referenceInvalid, s!"{measured} target must be a declared probe"⟩
  let armOf := fun armId => Table.lookup (fun arm : LearningArmSpec => arm.armId.val) armId spec.arms
  let comparator := measurement.comparatorArmId.bind armOf
  match armOf measurement.focalArmId.val with
  | none => .error ⟨.referenceInvalid, s!"{measured} references an unknown arm"⟩
  | some focal =>
    require (measurement.comparatorArmId.isSome → comparator.isSome)
      ⟨.referenceInvalid, s!"{measured} references an unknown arm"⟩
    require (¬ (measurement.comparatorArmId.isNone ↔ measurement.referenceExperienceId.isNone))
      ⟨.specInvalid, s!"{measured} requires exactly one comparator arm or reference experience"⟩
    require (∀ arm ∈ comparator, arm.armId ≠ focal.armId)
      ⟨.specInvalid, s!"{measured} comparator must differ from focal"⟩
    for arm in focal :: comparator.toList do
      require (measurement.targetExperienceId.val ∈ LearningArmSpec.ranExperiences arm)
        ⟨.referenceInvalid, s!"{measured} arm {arm.armId.val} does not run its target probe"⟩
    let missing := missingIds measurement.referenceExperienceId.toList (experienceIds spec)
    require (missing = [])
      ⟨.referenceInvalid, s!"{measured} references unknown experiences: {reprList missing}"⟩
    for reference in measurement.referenceExperienceId.toList do
      require (reference ∈ LearningArmSpec.ranExperiences focal)
        ⟨.referenceInvalid, s!"{measured} focal arm does not run reference experience {reference}"⟩

/-- `_validate_measurements` -/
def validateMeasurements : Except LearningStudyError PUnit := do
  for measurement in spec.measurements do
    validateMeasurement spec measurement

end References

/-! ## Plans -/

structure PlannedTrial where
  trialId : String
  experimentId : String
  taskId : String
  agent : AgentConfig
  compute : ComputeConfig
  repetition : ℕ
  deriving DecidableEq

structure CompiledExperienceStep where
  stepId : String
  experienceId : String
  role : ExperienceRole
  trial : PlannedTrial
  commitPostState : Bool
  deriving DecidableEq

structure CompiledFeedbackStep where
  stepId : String
  sourceExperienceId : String
  feedbackViewId : String
  deriving DecidableEq

structure CompiledConsolidationStep where
  stepId : String
  feedbackStepIds : List String
  operationId : String
  deriving DecidableEq

inductive CompiledStudyStep
  | experience (step : CompiledExperienceStep)
  | feedback (step : CompiledFeedbackStep)
  | consolidation (step : CompiledConsolidationStep)
  deriving DecidableEq

def CompiledStudyStep.stepId : CompiledStudyStep → String
  | experience step => step.stepId
  | feedback step => step.stepId
  | consolidation step => step.stepId

structure PlannedArmRun where
  armRunId : String
  armId : String
  armRole : StudyArmRole
  treatmentId : String
  repetition : ℕ
  steps : List CompiledStudyStep
  deriving DecidableEq

structure CompiledLearningStudy where
  studyRunId : String
  spec : LearningStudySpec
  armRuns : List PlannedArmRun
  deriving DecidableEq

/-- `build_trial_id` -/
def buildTrialId (experimentId taskId agentName : String) (repetition : ℕ) : String :=
  let normalizedTaskId := String.ofList (taskId.toList.map fun c => if c = '/' then '-' else c)
  s!"{experimentId}--{normalizedTaskId}--{agentName}--rep{Text.padded 2 repetition}"

section Compile

variable (studyRunId : String) (spec : LearningStudySpec)

/-- The probes that measurements compare between arms. -/
def measuredBetweenArmProbeIds : List String :=
  (spec.measurements.filter (·.comparatorArmId.isSome)).map (·.targetExperienceId.val)

/-- The step of an arm run, with the trial ids that are planned so far. -/
def compileStep (arm : LearningArmSpec) (repetition : ℕ) (trialIds : List String) :
    LearningStudyStep → Except LearningStudyError (CompiledStudyStep × List String)
  | .runExperience step =>
    match lookupExperience spec step.experienceId.val with
    | none => .error ⟨.lookup, Text.repr step.experienceId.val⟩
    | some experience => do
      let experimentId := s!"{studyRunId}--{arm.armId.val}--{step.stepId.val}"
      let trialId := buildTrialId experimentId experience.taskId.val spec.agent.name.val repetition
      require (trialId ∉ trialIds) ⟨.planCollision, s!"duplicate planned trial id: {trialId}"⟩
      let commitPostState := step.commitPostState.getD (experience.role ≠ .probe)
      require (¬ (experience.experienceId.val ∈ measuredBetweenArmProbeIds spec ∧ commitPostState))
        ⟨.orderInvalid, s!"study {spec.studyId.val} arm {arm.armId.val} step {step.stepId.val}: " ++
          "a measured between-arm probe cannot commit post-state"⟩
      pure (.experience
        { stepId := step.stepId.val
          experienceId := step.experienceId.val
          role := experience.role
          trial :=
            { trialId
              experimentId
              taskId := experience.taskId.val
              agent := spec.agent
              compute := spec.compute
              repetition }
          commitPostState }, trialIds ++ [trialId])
  | .releaseFeedback step =>
    .ok (.feedback ⟨step.stepId.val, step.sourceExperienceId.val, step.feedbackViewId.val⟩, trialIds)
  | .consolidate step =>
    .ok (.consolidation ⟨step.stepId.val, step.feedbackStepIds.map (·.val), step.operationId.val⟩,
      trialIds)

/-- The steps of an arm run. -/
def compileSteps (arm : LearningArmSpec) (repetition : ℕ) :
    List LearningStudyStep → List String →
      Except LearningStudyError (List CompiledStudyStep × List String)
  | [], trialIds => .ok ([], trialIds)
  | step :: steps, trialIds => do
    let (compiled, trialIds) ← compileStep studyRunId spec arm repetition trialIds step
    let (rest, trialIds) ← compileSteps arm repetition steps trialIds
    pure (compiled :: rest, trialIds)

/-- The arm runs, with the ids of trials and of arm runs that are planned so far. -/
def compileArmRuns : List (ℕ × LearningArmSpec) → List String → List String →
    Except LearningStudyError (List PlannedArmRun)
  | [], _, _ => .ok []
  | (repetition, arm) :: arms, trialIds, armRunIds => do
    let armRunId := s!"{studyRunId}--{arm.armId.val}--r{Text.padded 2 repetition}"
    require (armRunId ∉ armRunIds) ⟨.planCollision, s!"duplicate arm run id: {armRunId}"⟩
    let (steps, trialIds) ← compileSteps studyRunId spec arm repetition arm.steps trialIds
    let rest ← compileArmRuns arms trialIds (armRunIds ++ [armRunId])
    pure ({ armRunId, armId := arm.armId.val, armRole := arm.role
            treatmentId := arm.treatmentId.val, repetition, steps } :: rest)

/-- The arms of every repetition. -/
def armsOf : List (ℕ × LearningArmSpec) :=
  (List.range spec.repetitions).flatMap fun n => spec.arms.map fun arm => (n + 1, arm)

/-- The id of the task that an experience resolves to. -/
def resolveExperience (resolveTask : String → Except String String)
    (experience : LearningExperienceSpec) : Except LearningStudyError PUnit := do
  let context := s!"study {spec.studyId.val} experience {experience.experienceId.val}"
  let taskId ← (resolveTask experience.taskId.val).mapError fun error =>
    ⟨.taskResolutionFailed, s!"{context} could not resolve task {experience.taskId.val}: {error}"⟩
  require (taskId = experience.taskId.val)
    ⟨.taskResolutionFailed, s!"{context} resolved task {taskId}, expected {experience.taskId.val}"⟩

/-- `compile_learning_study`; a resolved task is read for its id only. -/
def compileLearningStudy (resolveTask : String → Except String String) :
    Except LearningStudyError CompiledLearningStudy := do
  validateSafeId "study run" studyRunId s!"study {spec.studyId.val}"
  validateReferences spec
  validateMeasurements spec
  for experience in spec.experiences do
    resolveExperience spec resolveTask experience
  let armRuns ← compileArmRuns studyRunId spec (armsOf spec) [] []
  pure ⟨studyRunId, spec, armRuns⟩

end Compile

/-! ## What a plan keeps of its study -/

section Kept

variable {studyRunId : String} {spec : LearningStudySpec}

lemma stepId_of_compileStep {arm : LearningArmSpec} {repetition : ℕ} {trialIds trialIds' : List String}
    {step : LearningStudyStep} {compiled : CompiledStudyStep}
    (h : compileStep studyRunId spec arm repetition trialIds step = .ok (compiled, trialIds')) :
    compiled.stepId = step.stepId.val := by
  cases step with
  | runExperience step =>
    simp only [compileStep] at h
    split at h
    next => cases h
    next experience hfound =>
      rw [require_bind_eq_ok, require_bind_eq_ok] at h
      obtain ⟨rfl, -⟩ := Prod.mk.inj (pure_eq_ok.mp h.2.2)
      rfl
  | releaseFeedback step | consolidate step =>
    obtain ⟨rfl, -⟩ := Prod.mk.inj (Except.ok.inj h)
    rfl

lemma stepIds_of_compileSteps {arm : LearningArmSpec} {repetition : ℕ}
    {steps : List LearningStudyStep} {trialIds trialIds' : List String}
    {compiled : List CompiledStudyStep}
    (h : compileSteps studyRunId spec arm repetition steps trialIds = .ok (compiled, trialIds')) :
    compiled.map CompiledStudyStep.stepId = steps.map (·.stepId.val) := by
  induction steps generalizing trialIds trialIds' compiled with
  | nil =>
    obtain ⟨rfl, -⟩ := Prod.mk.inj (Except.ok.inj h)
    rfl
  | cons step steps ih =>
    obtain ⟨⟨first, ids⟩, hfirst, h⟩ := bind_eq_ok.mp h
    obtain ⟨⟨rest, ids'⟩, hrest, h⟩ := bind_eq_ok.mp h
    obtain ⟨rfl, -⟩ := Prod.mk.inj (pure_eq_ok.mp h)
    rw [List.map_cons, List.map_cons, stepId_of_compileStep hfirst, ih hrest]

lemma compileArmRuns_eq_ok {arms : List (ℕ × LearningArmSpec)} {trialIds armRunIds : List String}
    {armRuns : List PlannedArmRun}
    (h : compileArmRuns studyRunId spec arms trialIds armRunIds = .ok armRuns) :
    (∀ armRun ∈ armRuns, (armRun.steps.map CompiledStudyStep.stepId).Nodup) ∧
      (armRuns.map PlannedArmRun.armRunId).Nodup ∧
      ∀ armRun ∈ armRuns, armRun.armRunId ∉ armRunIds := by
  induction arms generalizing trialIds armRunIds armRuns with
  | nil =>
    obtain rfl := Except.ok.inj h
    simp
  | cons first arms ih =>
    obtain ⟨repetition, arm⟩ := first
    simp only [compileArmRuns] at h
    rw [require_bind_eq_ok] at h
    obtain ⟨hfresh, h⟩ := h
    obtain ⟨⟨steps, ids⟩, hsteps, h⟩ := bind_eq_ok.mp h
    obtain ⟨rest, hrest, h⟩ := bind_eq_ok.mp h
    obtain rfl := pure_eq_ok.mp h
    obtain ⟨hnodup, hids, hfreshRest⟩ := ih hrest
    refine ⟨?_, ?_, ?_⟩
    · intro armRun harm
      rcases List.mem_cons.mp harm with rfl | harm
      · rw [stepIds_of_compileSteps hsteps]
        have hvals := arm.steps_nodup.map (f := Text.NonEmptyStr.val)
          fun a b hab => Text.NonEmptyStr.ext hab
        rwa [List.map_map] at hvals
      · exact hnodup armRun harm
    · rw [List.map_cons, List.nodup_cons]
      refine ⟨?_, hids⟩
      intro hmem
      obtain ⟨armRun, harm, heq⟩ := List.mem_map.mp hmem
      refine hfreshRest armRun harm ?_
      rw [heq]
      exact List.mem_append_right _ List.mem_cons_self
    · intro armRun harm hmem
      rcases List.mem_cons.mp harm with rfl | harm
      · exact hfresh hmem
      · exact hfreshRest armRun harm (List.mem_append_left _ hmem)

variable {resolveTask : String → Except String String} {plan : CompiledLearningStudy}

variable (h : compileLearningStudy studyRunId spec resolveTask = .ok plan)
include h

lemma armRuns_of_compile :
    compileArmRuns studyRunId spec (armsOf spec) [] [] = .ok plan.armRuns := by
  unfold compileLearningStudy at h
  obtain ⟨-, -, h⟩ := bind_eq_ok.mp h
  obtain ⟨-, -, h⟩ := bind_eq_ok.mp h
  obtain ⟨-, -, h⟩ := bind_eq_ok.mp h
  obtain ⟨-, -, h⟩ := bind_eq_ok.mp h
  obtain ⟨armRuns, harmRuns, h⟩ := bind_eq_ok.mp h
  obtain rfl := pure_eq_ok.mp h
  exact harmRuns

/-- The steps of a planned arm run have different ids. -/
theorem step_ids_of_compile {armRun : PlannedArmRun} (harm : armRun ∈ plan.armRuns) :
    (armRun.steps.map CompiledStudyStep.stepId).Nodup :=
  (compileArmRuns_eq_ok (armRuns_of_compile h)).1 armRun harm

/-- The arm runs of a plan have different ids. -/
theorem arm_run_ids_of_compile : (plan.armRuns.map PlannedArmRun.armRunId).Nodup :=
  (compileArmRuns_eq_ok (armRuns_of_compile h)).2.1

end Kept

end AecBench.Experimentation.LearningStudies
