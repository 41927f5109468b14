import Mathlib.Data.List.Infix
import AecBench.Experimentation.LearningStudies.Planning
import AecBench.Lib.Dict

/-!
# Running a learning study

The arm runs of a plan are run one after another, with operations that the caller supplies. The
operations may return anything and raise anything; they and the observer share one world. What has
changed when an operation raises stays changed.

## Main definitions

* `LearningStudyOperations`, `LearningStudyObserver` — what the caller supplies.
* `Frame` — the world, the identities that are taken, the local variables of an arm run, and the
  calls of operations made so far.
* `performStep` — a step; `runSteps` — the steps of an arm run, up to the first that fails.
* `runArmRun`, `runLearningStudy` — an arm run and a study.
-/

namespace AecBench.Experimentation.LearningStudies

open Text Validation

/-! ## Values -/

structure TrialRecord (R : Type) where
  trialId : String
  taskId : String
  content : R

structure LearnerStateHandle (S : Type) where
  stateId : String
  value : S

structure FeedbackHandle (F : Type) where
  feedbackId : String
  sourceExperienceId : String
  viewId : String
  value : F

inductive ArmRunStatus
  | completed
  | failed
  deriving DecidableEq

inductive StepExecutionStatus
  | completed
  | failed
  | skipped
  deriving DecidableEq

structure StudyStepFailure where
  category : String
  message : String
  armRunId : String
  stepId : Option String

structure StepExecutionResult (F R : Type) where
  stepId : String
  stepIndex : ℕ
  kind : String
  status : StepExecutionStatus
  stateBeforeId : Option String
  candidateStateId : Option String
  committedStateId : Option String
  stateCommitted : Option Bool
  trialRecord : Option (TrialRecord R) := none
  feedback : Option (FeedbackHandle F) := none
  failure : Option StudyStepFailure := none

structure ArmRunExecutionResult (F R : Type) where
  armRunId : String
  status : ArmRunStatus
  initialStateId : Option String
  completedSteps : List (StepExecutionResult F R)
  trialRecords : List (TrialRecord R)
  finalStateId : Option String
  failure : Option StudyStepFailure

structure LearningStudyExecution (F R : Type) where
  studyRunId : String
  armRuns : List (ArmRunExecutionResult F R)

structure ArmRunResumeState (S F R : Type) where
  initialStateId : String
  currentState : LearnerStateHandle S
  completedSteps : List (StepExecutionResult F R)
  trialRecords : List (TrialRecord R)
  feedbackByStep : List (String × FeedbackHandle F)

/-- Where a study is resumed; the two mappings are functions of the id of an arm run. -/
structure LearningStudyResume (S F R : Type) where
  completedArmRuns : String → Option (ArmRunExecutionResult F R)
  incompleteArmRuns : String → Option (ArmRunResumeState S F R)
  knownStateIds : List String
  knownFeedbackIds : List String

/-- No resume. -/
def LearningStudyResume.fresh {S F R : Type} : LearningStudyResume S F R :=
  ⟨fun _ => none, fun _ => none, [], []⟩

/-! ## What the caller supplies -/

/-- What a call can raise. -/
inductive Raised
  /-- `_StepFailure` -/
  | stepFailure (category message : String)
  /-- Any other `Exception`. -/
  | error (message : String)
  /-- `LearningStudyPersistenceError` -/
  | persistence (message : String)
  /-- `asyncio.CancelledError` -/
  | cancelled

/-- `str(error)` -/
def Raised.message : Raised → String
  | stepFailure _ message => message
  | error message => message
  | persistence message => message
  | cancelled => ""

/-- The exceptions that end an arm run, and the study with it. -/
def Raised.interrupts : Raised → Bool
  | persistence _ => true
  | cancelled => true
  | _ => false

structure ExecuteExperienceRequest (S : Type) where
  armRun : PlannedArmRun
  step : CompiledExperienceStep
  state : LearnerStateHandle S

structure ReleaseFeedbackRequest (S R : Type) where
  armRun : PlannedArmRun
  step : CompiledFeedbackStep
  state : LearnerStateHandle S
  sourceTrialRecord : TrialRecord R

structure ConsolidationRequest (S F : Type) where
  armRun : PlannedArmRun
  step : CompiledConsolidationStep
  state : LearnerStateHandle S
  feedback : List (FeedbackHandle F)

structure ExperienceExecutionResult (S R : Type) where
  trialRecord : TrialRecord R
  candidateState : LearnerStateHandle S

structure FeedbackReleaseResult (S F : Type) where
  candidateState : LearnerStateHandle S
  feedback : FeedbackHandle F

structure LearnerTransitionResult (S : Type) where
  candidateState : LearnerStateHandle S

/-- The operations, on the world that they share. -/
structure LearningStudyOperations (W S F R : Type) where
  initialiseLearner : PlannedArmRun → EStateM Raised W (LearnerStateHandle S)
  executeExperience : ExecuteExperienceRequest S → EStateM Raised W (ExperienceExecutionResult S R)
  releaseFeedback : ReleaseFeedbackRequest S R → EStateM Raised W (FeedbackReleaseResult S F)
  consolidate : ConsolidationRequest S F → EStateM Raised W (LearnerTransitionResult S)
  discardState : LearnerStateHandle S → EStateM Raised W PUnit

/-- The methods of an observer, with their arguments. -/
inductive Notification (S F R : Type)
  | armStarted (armRun : PlannedArmRun)
  | learnerInitialised (armRun : PlannedArmRun) (state : LearnerStateHandle S)
  | stepStarted (armRun : PlannedArmRun) (step : CompiledStudyStep) (stepIndex : ℕ)
  | stepCommitted (armRun : PlannedArmRun) (step : CompiledStudyStep)
      (result : StepExecutionResult F R)
      (stateBefore candidateState committedState : LearnerStateHandle S)
  | stepFailed (armRun : PlannedArmRun) (step : CompiledStudyStep)
      (result : StepExecutionResult F R)
  | armFinished (result : ArmRunExecutionResult F R)
  | studyFinished (result : LearningStudyExecution F R)
  | studyCancelled

/-- An observer; one that does nothing stands for none. -/
abbrev LearningStudyObserver (W S F R : Type) := Notification S F R → EStateM Raised W PUnit

/-- A call of an operation; `discard_state` gets the state only. -/
inductive Call (S F R : Type)
  | initialiseLearner (armRun : PlannedArmRun)
  | executeExperience (request : ExecuteExperienceRequest S)
  | releaseFeedback (request : ReleaseFeedbackRequest S R)
  | consolidate (request : ConsolidationRequest S F)
  | discardState (armRun : PlannedArmRun) (step : CompiledExperienceStep)
      (state : LearnerStateHandle S)

/-- A call that was made, and whether it has raised. -/
structure Called (S F R : Type) where
  call : Call S F R
  raised : Bool

/-! ## Frames -/

/-- The world and the sets of identities of a study, the local variables of an arm run, and the
calls made so far. -/
structure Frame (W S F R : Type) where
  world : W
  seenStateIds : List String
  seenFeedbackIds : List String
  state : Option (LearnerStateHandle S)
  trialRecords : List (TrialRecord R)
  trialsByExperience : List (String × TrialRecord R)
  feedbackByStep : List (String × FeedbackHandle F)
  calls : List (Called S F R)

section Runtime

variable {W S F R : Type}

abbrev Run (W S F R : Type) := EStateM Raised (Frame W S F R)

/-- `_call_operation` -/
def callOperation {α : Type} (call : Call S F R) (operation : EStateM Raised W α) :
    Run W S F R α := fun frame =>
  match operation frame.world with
  | .ok a world => .ok a { frame with world, calls := frame.calls ++ [⟨call, false⟩] }
  | .error e world => .error e { frame with world, calls := frame.calls ++ [⟨call, true⟩] }

/-- What `_notify` raises of an exception. -/
def Raised.notified : Raised → Raised
  | cancelled => cancelled
  | persistence message => persistence message
  | e => persistence e.message

/-- `_notify` -/
def notify (observer : LearningStudyObserver W S F R) (notification : Notification S F R) :
    Run W S F R PUnit := fun frame =>
  match observer notification frame.world with
  | .ok _ world => .ok ⟨⟩ { frame with world }
  | .error e world => .error e.notified { frame with world }

/-- `try … except` around a program, whose changes stay. -/
def attempt {α : Type} (x : Run W S F R α) : Run W S F R (Except Raised α) := fun frame =>
  match x frame with
  | .ok a frame => .ok (.ok a) frame
  | .error e frame => .ok (.error e) frame

def raise {α : Type} (e : Raised) : Run W S F R α := fun frame => .error e frame

/-! ### Checks -/

/-- `_validate_trial_identity` -/
def validateTrialIdentity (record : TrialRecord R) (step : CompiledExperienceStep) :
    Run W S F R PUnit :=
  if record.trialId = step.trial.trialId ∧ record.taskId = step.trial.taskId then pure ⟨⟩
  else raise (.stepFailure "trial-record-mismatch"
    (s!"returned trial identity ({Text.repr record.trialId}, {Text.repr record.taskId}) does not " ++
      s!"match ({Text.repr step.trial.trialId}, {Text.repr step.trial.taskId})"))

/-- `_validate_new_identity` of a learner state. -/
def validateNewState (stateId : String) : Run W S F R PUnit := do
  let frame ← get
  if Blank stateId then
    raise (.stepFailure "state-identity-reused" "learner state id must not be blank")
  else if stateId ∈ frame.seenStateIds then
    raise (.stepFailure "arm-isolation-failed"
      s!"learner state id was already used in this study: {stateId}")
  else pure ⟨⟩

/-- `_validate_new_identity` of a feedback. -/
def validateNewFeedback (feedbackId : String) : Run W S F R PUnit := do
  let frame ← get
  if Blank feedbackId then
    raise (.stepFailure "state-identity-reused" "feedback id must not be blank")
  else if feedbackId ∈ frame.seenFeedbackIds then
    raise (.stepFailure "feedback-release-failed"
      s!"feedback id was already used in this study: {feedbackId}")
  else pure ⟨⟩

/-- `_validate_candidate` -/
def validateCandidate (candidate current : LearnerStateHandle S) : Run W S F R PUnit :=
  if candidate.stateId = current.stateId then
    raise (.stepFailure "state-identity-reused"
      "state-producing operation reused the current state id")
  else validateNewState candidate.stateId

/-- The checks of a released feedback against its step. -/
def validateRelease (feedback : FeedbackHandle F) (step : CompiledFeedbackStep) :
    Run W S F R PUnit :=
  if feedback.sourceExperienceId ≠ step.sourceExperienceId then
    raise (.stepFailure "feedback-release-failed"
      "feedback source identity does not match the plan")
  else if feedback.viewId ≠ step.feedbackViewId then
    raise (.stepFailure "feedback-release-failed" "feedback view identity does not match the plan")
  else pure ⟨⟩

/-! ### Steps -/

/-- `_step_kind` -/
def CompiledStudyStep.kind : CompiledStudyStep → String
  | experience _ => "run_experience"
  | feedback _ => "release_feedback"
  | consolidation _ => "consolidate"

variable (operations : LearningStudyOperations W S F R) (observer : LearningStudyObserver W S F R)

/-- The state after an experience, whose candidate state is committed or discarded. -/
def settle (armRun : PlannedArmRun) (step : CompiledExperienceStep)
    (candidateState stateBefore : LearnerStateHandle S) :
    Run W S F R (LearnerStateHandle S) := do
  if step.commitPostState then return candidateState
  callOperation (.discardState armRun step candidateState) (operations.discardState candidateState)
  return stateBefore

/-- The branch of an experience, with its candidate state. -/
def runExperience (armRun : PlannedArmRun) (stepIndex : ℕ) (step : CompiledExperienceStep)
    (stateBefore : LearnerStateHandle S) :
    Run W S F R (StepExecutionResult F R × LearnerStateHandle S) := do
  let request : ExecuteExperienceRequest S := ⟨armRun, step, stateBefore⟩
  let result ← callOperation (.executeExperience request) (operations.executeExperience request)
  validateTrialIdentity result.trialRecord step
  validateCandidate result.candidateState stateBefore
  modify fun frame =>
    { frame with
      seenStateIds := frame.seenStateIds ++ [result.candidateState.stateId]
      trialRecords := frame.trialRecords ++ [result.trialRecord]
      trialsByExperience := frame.trialsByExperience ++ [(step.experienceId, result.trialRecord)] }
  let state ← settle operations armRun step result.candidateState stateBefore
  modify fun frame => { frame with state := some state }
  pure ({ stepId := step.stepId
          stepIndex
          kind := "run_experience"
          status := .completed
          stateBeforeId := some stateBefore.stateId
          candidateStateId := some result.candidateState.stateId
          committedStateId := some state.stateId
          stateCommitted := some step.commitPostState
          trialRecord := some result.trialRecord }, result.candidateState)

/-- The branch of a feedback. -/
def releaseFeedback (armRun : PlannedArmRun) (stepIndex : ℕ) (step : CompiledFeedbackStep)
    (stateBefore : LearnerStateHandle S) :
    Run W S F R (StepExecutionResult F R × LearnerStateHandle S) := do
  let frame ← get
  match Dict.get Prod.fst frame.trialsByExperience step.sourceExperienceId with
  | none => raise (.stepFailure "feedback-source-missing"
      "feedback source did not complete in this arm")
  | some source => do
    let request : ReleaseFeedbackRequest S R := ⟨armRun, step, stateBefore, source.2⟩
    let result ← callOperation (.releaseFeedback request) (operations.releaseFeedback request)
    validateCandidate result.candidateState stateBefore
    validateNewFeedback result.feedback.feedbackId
    validateRelease result.feedback step
    modify fun frame =>
      { frame with
        seenStateIds := frame.seenStateIds ++ [result.candidateState.stateId]
        seenFeedbackIds := frame.seenFeedbackIds ++ [result.feedback.feedbackId]
        state := some result.candidateState
        feedbackByStep := frame.feedbackByStep ++ [(step.stepId, result.feedback)] }
    pure ({ stepId := step.stepId
            stepIndex
            kind := "release_feedback"
            status := .completed
            stateBeforeId := some stateBefore.stateId
            candidateStateId := some result.candidateState.stateId
            committedStateId := some result.candidateState.stateId
            stateCommitted := some true
            feedback := some result.feedback }, result.candidateState)

/-- `tuple(feedback_by_step[item] for item in step.feedback_step_ids)`, with its `KeyError`. -/
def selectFeedback (feedbackByStep : List (String × FeedbackHandle F)) :
    List String → Except Raised (List (FeedbackHandle F)) :=
  List.mapM fun stepId =>
    match Dict.get Prod.fst feedbackByStep stepId with
    | none => .error (.error (Text.repr stepId))
    | some entry => .ok entry.2

/-- The branch of a consolidation. -/
def runConsolidation (armRun : PlannedArmRun) (stepIndex : ℕ) (step : CompiledConsolidationStep)
    (stateBefore : LearnerStateHandle S) :
    Run W S F R (StepExecutionResult F R × LearnerStateHandle S) := do
  let frame ← get
  match selectFeedback frame.feedbackByStep step.feedbackStepIds with
  | .error e => raise e
  | .ok selected => do
    let request : ConsolidationRequest S F := ⟨armRun, step, stateBefore, selected⟩
    let result ← callOperation (.consolidate request) (operations.consolidate request)
    validateCandidate result.candidateState stateBefore
    modify fun frame =>
      { frame with
        seenStateIds := frame.seenStateIds ++ [result.candidateState.stateId]
        state := some result.candidateState }
    pure ({ stepId := step.stepId
            stepIndex
            kind := "consolidate"
            status := .completed
            stateBeforeId := some stateBefore.stateId
            candidateStateId := some result.candidateState.stateId
            committedStateId := some result.candidateState.stateId
            stateCommitted := some true }, result.candidateState)

/-- The branches of a step. -/
def runBranch (armRun : PlannedArmRun) (stepIndex : ℕ) (step : CompiledStudyStep)
    (stateBefore : LearnerStateHandle S) :
    Run W S F R (StepExecutionResult F R × LearnerStateHandle S) :=
  match step with
  | .experience step => runExperience operations armRun stepIndex step stateBefore
  | .feedback step => releaseFeedback operations armRun stepIndex step stateBefore
  | .consolidation step => runConsolidation operations armRun stepIndex step stateBefore

/-- The `try` block of a step. -/
def performStep (armRun : PlannedArmRun) (stepIndex : ℕ) (step : CompiledStudyStep)
    (stateBefore : LearnerStateHandle S) : Run W S F R (StepExecutionResult F R) := do
  notify observer (.stepStarted armRun step stepIndex)
  let (result, candidateState) ← runBranch operations armRun stepIndex step stateBefore
  let frame ← get
  notify observer (.stepCommitted armRun step result stateBefore candidateState
    (frame.state.getD stateBefore))
  pure result

/-- `_failure_category`, with that of a step failure. -/
def failureCategory (step : CompiledStudyStep) : Raised → String
  | .stepFailure category _ => category
  | e =>
    match step with
    | .experience _ =>
      if "discard".toList <:+: e.message.toLower.toList then "state-discard-failed"
      else "experience-execution-failed"
    | .feedback _ => "feedback-release-failed"
    | .consolidation _ => "consolidation-failed"

/-- The result of a step that has failed. -/
def failedStep (stepIndex : ℕ) (step : CompiledStudyStep) (stateBefore : LearnerStateHandle S)
    (failure : StudyStepFailure) : StepExecutionResult F R where
  stepId := step.stepId
  stepIndex
  kind := step.kind
  status := .failed
  stateBeforeId := some stateBefore.stateId
  candidateStateId := none
  committedStateId := some stateBefore.stateId
  stateCommitted := some false
  failure := some failure

/-- The result of a step after the one that has failed. -/
def skippedStep (stateBefore : LearnerStateHandle S) (indexed : CompiledStudyStep × ℕ) :
    StepExecutionResult F R where
  stepId := indexed.1.stepId
  stepIndex := indexed.2
  kind := indexed.1.kind
  status := .skipped
  stateBeforeId := some stateBefore.stateId
  candidateStateId := none
  committedStateId := some stateBefore.stateId
  stateCommitted := none

/-- The steps of an arm run that remain, with their indices: the results, and the failure. -/
def runSteps (armRun : PlannedArmRun) : List (CompiledStudyStep × ℕ) →
    List (StepExecutionResult F R) →
      Run W S F R (List (StepExecutionResult F R) × Option StudyStepFailure)
  | [], completed => pure (completed, none)
  | (step, stepIndex) :: rest, completed => do
    let frame ← get
    match frame.state with
    | none => raise (.error "")
    | some stateBefore =>
      match ← attempt (performStep operations observer armRun stepIndex step stateBefore) with
      | .ok result => runSteps armRun rest (completed ++ [result])
      | .error e =>
        if e.interrupts then raise e
        else do
          let failure : StudyStepFailure :=
            ⟨failureCategory step e, e.message, armRun.armRunId, some step.stepId⟩
          let failed := failedStep stepIndex step stateBefore failure
          notify observer (.stepFailed armRun step failed)
          pure (completed ++ failed :: rest.map (skippedStep stateBefore), some failure)

/-! ### Arm runs -/

/-- The `try` block of the initialisation. -/
def initialise (armRun : PlannedArmRun) : Run W S F R (LearnerStateHandle S) := do
  let state ← callOperation (.initialiseLearner armRun) (operations.initialiseLearner armRun)
  validateNewState state.stateId
  modify fun frame => { frame with seenStateIds := frame.seenStateIds ++ [state.stateId] }
  notify observer (.learnerInitialised armRun state)
  pure state

/-- The checks of one receipt of a resumed prefix. -/
def checkReceipt (receipt : StepExecutionResult F R × CompiledStudyStep × ℕ) :
    Except Raised PUnit := do
  require (receipt.1.status = .completed)
    (.persistence "resume prefix contains a non-completed step")
  require (receipt.1.stepIndex = receipt.2.2 ∧ receipt.1.stepId = receipt.2.1.stepId)
    (.persistence "resume step receipt does not match compiled plan order")

/-- `_validate_resume_prefix` -/
def validateResumePrefix (armRun : PlannedArmRun) (resumeState : ArmRunResumeState S F R) :
    Except Raised PUnit := do
  require (resumeState.completedSteps.length < armRun.steps.length)
    (.persistence "incomplete resume state contains a terminal arm")
  (resumeState.completedSteps.zip armRun.steps.zipIdx).forM checkReceipt

/-- The trials of a resumed prefix, by their experiences. -/
def resumedTrials (armRun : PlannedArmRun) :
    List (StepExecutionResult F R) → Except Raised (List (String × TrialRecord R))
  | [] => .ok []
  | result :: results => do
    let rest ← resumedTrials armRun results
    match result.trialRecord, armRun.steps[result.stepIndex]? with
    | none, _ => pure rest
    | some record, some (.experience step) => pure ((step.experienceId, record) :: rest)
    | some _, _ => .error (.persistence "resumed trial does not match an experience step")

/-- The checks of a resumed arm run, and its trials. -/
def checkResume (armRun : PlannedArmRun) (resumeState : ArmRunResumeState S F R) :
    Except Raised (List (String × TrialRecord R)) := do
  validateResumePrefix armRun resumeState
  resumedTrials armRun resumeState.completedSteps

/-- The local variables of an arm run before its first step; the steps that are completed, and
the initial state. -/
def beginArmRun (armRun : PlannedArmRun) :
    Option (ArmRunResumeState S F R) →
      Run W S F R (Except StudyStepFailure (String × List (StepExecutionResult F R)))
  | none => do
    modify fun frame =>
      { frame with
        state := none
        trialRecords := []
        trialsByExperience := []
        feedbackByStep := [] }
    notify observer (.armStarted armRun)
    match ← attempt (initialise operations observer armRun) with
    | .ok state => do
      modify fun frame => { frame with state := some state }
      pure (.ok (state.stateId, []))
    | .error e =>
      if e.interrupts then raise e
      else pure (.error ⟨"learner-initialisation-failed", e.message, armRun.armRunId, none⟩)
  | some resumeState => do
    match checkResume armRun resumeState with
    | .error e => raise e
    | .ok trials => do
      modify fun frame =>
        { frame with
          state := some resumeState.currentState
          trialRecords := resumeState.trialRecords
          trialsByExperience := trials
          feedbackByStep := resumeState.feedbackByStep }
      pure (.ok (resumeState.initialStateId, resumeState.completedSteps))

/-- `_run_arm_run` -/
def runArmRun (armRun : PlannedArmRun) (resumeState : Option (ArmRunResumeState S F R)) :
    Run W S F R (ArmRunExecutionResult F R) := do
  match ← beginArmRun operations observer armRun resumeState with
  | .error failure => do
    let result : ArmRunExecutionResult F R :=
      ⟨armRun.armRunId, .failed, none, [], [], none, some failure⟩
    notify observer (.armFinished result)
    pure result
  | .ok (initialStateId, completed) => do
    let (completedSteps, failure) ←
      runSteps operations observer armRun (armRun.steps.zipIdx.drop completed.length) completed
    let frame ← get
    let result : ArmRunExecutionResult F R :=
      { armRunId := armRun.armRunId
        status := if failure.isNone then .completed else .failed
        initialStateId := some initialStateId
        completedSteps
        trialRecords := frame.trialRecords
        finalStateId := frame.state.map (·.stateId)
        failure }
    notify observer (.armFinished result)
    pure result

/-- The result of an arm run, which the resume may have. -/
def resumeOrRun (resume : LearningStudyResume S F R) (armRun : PlannedArmRun) :
    Run W S F R (ArmRunExecutionResult F R) :=
  match resume.completedArmRuns armRun.armRunId with
  | some terminal => pure terminal
  | none => runArmRun operations observer armRun (resume.incompleteArmRuns armRun.armRunId)

/-- The arm runs of a study, one after another. -/
def runArmRuns (resume : LearningStudyResume S F R) :
    List PlannedArmRun → Run W S F R (List (ArmRunExecutionResult F R))
  | [] => pure []
  | armRun :: armRuns => do
    let result ← resumeOrRun operations observer resume armRun
    let results ← runArmRuns resume armRuns
    pure (result :: results)

/-- A study that has not called an operation. -/
def Frame.start (world : W) (resume : LearningStudyResume S F R) : Frame W S F R :=
  ⟨world, resume.knownStateIds, resume.knownFeedbackIds, none, [], [], [], []⟩

/-- `run_learning_study` -/
def runLearningStudy (plan : CompiledLearningStudy) (resume : LearningStudyResume S F R) :
    Run W S F R (LearningStudyExecution F R) := do
  match ← attempt (runArmRuns operations observer resume plan.armRuns) with
  | .ok results => do
    let execution : LearningStudyExecution F R := ⟨plan.studyRunId, results⟩
    notify observer (.studyFinished execution)
    pure execution
  | .error .cancelled => do
    notify observer .studyCancelled
    raise .cancelled
  | .error e => raise e

end Runtime

end AecBench.Experimentation.LearningStudies
