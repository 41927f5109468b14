import Mathlib.Data.PNat.Basic
import AecBench.Lib.PyValue
import AecBench.Lib.Text

/-!
# Learning studies as they are written

A study has experiences, which are tasks in a role, and arms, which are lists of steps: an
experience is run, feedback on an experience is released, and released feedback is consolidated.
Relations say what an experience has to do with others, and measurements what is compared.

## Main definitions

* `LearningStudyStep`, `LearningArmSpec` — the steps of an arm, with different ids.
* `LearningMeasurementSpec`, `ExperienceRelationSpec` — what is said of the experiences.
* `LearningStudySpec` — a study.
-/

namespace AecBench.Contracts.LearningStudy

open Text

inductive ExperienceRole
  | acquisition
  | practice
  | interference
  | probe
  deriving DecidableEq

inductive StudyArmRole
  | control
  | exposure
  deriving DecidableEq

inductive ExperienceRelationPurpose
  | transfer
  | boundary
  | composition
  deriving DecidableEq

inductive ImprovementDirection
  | higher
  | lower
  deriving DecidableEq

/-- What is compared, with exactly one of a comparator arm and a reference experience. -/
structure LearningMeasurementSpec where
  measurementId : NonEmptyStr
  projectionId : NonEmptyStr
  direction : ImprovementDirection
  targetExperienceId : NonEmptyStr
  focalArmId : NonEmptyStr
  comparatorArmId : Option String
  referenceExperienceId : Option String
  one_comparator : ¬ (comparatorArmId.isNone ↔ referenceExperienceId.isNone)
  deriving DecidableEq

structure LearningExperienceSpec where
  experienceId : NonEmptyStr
  taskId : NonEmptyStr
  role : ExperienceRole
  deriving DecidableEq

structure RunExperienceStep where
  stepId : NonEmptyStr
  experienceId : NonEmptyStr
  commitPostState : Option Bool
  deriving DecidableEq

structure ReleaseFeedbackStep where
  stepId : NonEmptyStr
  sourceExperienceId : NonEmptyStr
  feedbackViewId : NonEmptyStr
  deriving DecidableEq

structure ConsolidateStep where
  stepId : NonEmptyStr
  feedbackStepIds : List NonEmptyStr
  operationId : NonEmptyStr
  feedback_nonempty : feedbackStepIds ≠ []
  feedback_nodup : feedbackStepIds.Nodup
  deriving DecidableEq

inductive LearningStudyStep
  | runExperience (step : RunExperienceStep)
  | releaseFeedback (step : ReleaseFeedbackStep)
  | consolidate (step : ConsolidateStep)
  deriving DecidableEq

def LearningStudyStep.stepId : LearningStudyStep → NonEmptyStr
  | runExperience step => step.stepId
  | releaseFeedback step => step.stepId
  | consolidate step => step.stepId

/-- An arm, with steps of different ids. -/
structure LearningArmSpec where
  armId : NonEmptyStr
  role : StudyArmRole
  treatmentId : NonEmptyStr
  steps : List LearningStudyStep
  steps_nonempty : steps ≠ []
  steps_nodup : (steps.map LearningStudyStep.stepId).Nodup
  deriving DecidableEq

/-- What the target experience has to do with its sources. -/
structure ExperienceRelationSpec where
  relationId : NonEmptyStr
  purpose : ExperienceRelationPurpose
  sourceExperienceIds : List NonEmptyStr
  targetExperienceId : NonEmptyStr
  invariantClaims : List NonEmptyStr
  changedDimensions : List NonEmptyStr
  rationale : NonEmptyStr
  sources_nonempty : sourceExperienceIds ≠ []
  sources_nodup : sourceExperienceIds.Nodup
  target_not_source : targetExperienceId ∉ sourceExperienceIds
  sources_count : if purpose = .composition then 2 ≤ sourceExperienceIds.length
    else sourceExperienceIds.length = 1
  claims : purpose = .transfer ∨ purpose = .composition → invariantClaims ≠ []
  dimensions_nonempty : changedDimensions ≠ []
  dimensions_nodup : changedDimensions.Nodup
  deriving DecidableEq

/-- An agent, by its name and its other settings. -/
structure AgentConfig where
  name : NonEmptyStr
  settings : PyFields
  deriving DecidableEq

structure ComputeConfig where
  backend : NonEmptyStr
  settings : PyFields
  deriving DecidableEq

/-- A study, whose parts have different ids. -/
structure LearningStudySpec where
  studyId : NonEmptyStr
  title : NonEmptyStr
  researchQuestion : NonEmptyStr
  agent : AgentConfig
  compute : ComputeConfig
  repetitions : ℕ+
  experiences : List LearningExperienceSpec
  relations : List ExperienceRelationSpec
  measurements : List LearningMeasurementSpec
  arms : List LearningArmSpec
  experiences_nodup : (experiences.map LearningExperienceSpec.experienceId).Nodup
  relations_nodup : (relations.map ExperienceRelationSpec.relationId).Nodup
  measurements_nodup : (measurements.map LearningMeasurementSpec.measurementId).Nodup
  arms_nodup : (arms.map LearningArmSpec.armId).Nodup
  experiences_nonempty : experiences ≠ []
  arms_nonempty : arms ≠ []
  deriving DecidableEq

end AecBench.Contracts.LearningStudy
