import AecBench.Experimentation.LearningStudies.Runtime
import AecBench.Lib.Stateful

/-!
# The steps of a learning study

What one step does to its frame. A step that completes has added one state identity that was not
taken, at most one feedback and at most one trial record; a step that raises leaves the state and
the released feedback, and the trial records unless it was discarding its candidate state.

## Main definitions

* `Accepted` — a step that completes; `Refused` — what a step that raises leaves behind.

## Main results

* `performStep_cases` — a step completes, is refused, or ends the study.
-/

namespace AecBench.Experimentation.LearningStudies

open Text Validation Stateful

section Steps

variable {W S F R : Type}

/-- The step commits its candidate state. -/
def CompiledStudyStep.commits : CompiledStudyStep → Bool
  | experience step => step.commitPostState
  | feedback _ => true
  | consolidation _ => true

/-- The record is that of the planned trial of the step. -/
def TrialOf : CompiledStudyStep → Option (TrialRecord R) → Prop
  | .experience step, some record =>
    record.trialId = step.trial.trialId ∧ record.taskId = step.trial.taskId
  | .experience _, none => False
  | _, record => record = none

/-- The feedback is what the step releases. -/
def FeedbackOf : CompiledStudyStep → Option (FeedbackHandle F) → Prop
  | .feedback step, some feedback =>
    feedback.sourceExperienceId = step.sourceExperienceId ∧ feedback.viewId = step.feedbackViewId
  | .feedback _, none => False
  | _, feedback => feedback = none

/-- A call that a step makes, on the state that it is handed. -/
def CallOf (armRun : PlannedArmRun) (step : CompiledStudyStep) (state : LearnerStateHandle S)
    (feedbackByStep : List (String × FeedbackHandle F)) : Call S F R → Prop
  | .initialiseLearner _ => False
  | .executeExperience request =>
    request.armRun = armRun ∧ .experience request.step = step ∧ request.state = state
  | .releaseFeedback request =>
    request.armRun = armRun ∧ .feedback request.step = step ∧ request.state = state
  | .consolidate request =>
    request.armRun = armRun ∧ .consolidation request.step = step ∧ request.state = state ∧
      selectFeedback feedbackByStep request.step.feedbackStepIds = .ok request.feedback
  | .discardState armRun' step' _ => armRun' = armRun ∧ .experience step' = step

/-- A discard that has raised. -/
def Called.DiscardRaised (called : Called S F R) : Prop :=
  match called.call with
  | .discardState _ _ _ => called.raised = true
  | _ => False

/-- A step that completes. -/
structure Accepted (armRun : PlannedArmRun) (stepIndex : ℕ) (step : CompiledStudyStep)
    (stateBefore : LearnerStateHandle S) (frame : Frame W S F R)
    (result : StepExecutionResult F R) (candidate : LearnerStateHandle S)
    (frame' : Frame W S F R) : Prop where
  step_id : result.stepId = step.stepId
  step_index : result.stepIndex = stepIndex
  status : result.status = .completed
  before : result.stateBeforeId = some stateBefore.stateId
  candidate_id : result.candidateStateId = some candidate.stateId
  committed_id :
    result.committedStateId = some (if step.commits then candidate else stateBefore).stateId
  state_committed : result.stateCommitted = some step.commits
  trial : TrialOf step result.trialRecord
  feedback : FeedbackOf step result.feedback
  new_state : candidate.stateId ∉ frame.seenStateIds
  new_feedback : ∀ feedback ∈ result.feedback, feedback.feedbackId ∉ frame.seenFeedbackIds
  seen_states : frame'.seenStateIds = frame.seenStateIds ++ [candidate.stateId]
  seen_feedback : frame'.seenFeedbackIds =
    frame.seenFeedbackIds ++ (result.feedback.map (·.feedbackId)).toList
  state : frame'.state = some (if step.commits then candidate else stateBefore)
  trials : frame'.trialRecords = frame.trialRecords ++ result.trialRecord.toList
  released : frame'.feedbackByStep =
    frame.feedbackByStep ++ (result.feedback.map fun feedback => (step.stepId, feedback)).toList
  calls : ∃ new, frame'.calls = frame.calls ++ new ∧ ∀ called ∈ new,
    CallOf armRun step stateBefore frame.feedbackByStep called.call ∧ ¬ called.DiscardRaised

/-- What a step that raises leaves behind. -/
structure Refused (armRun : PlannedArmRun) (step : CompiledStudyStep)
    (stateBefore : LearnerStateHandle S) (frame frame' : Frame W S F R) : Prop where
  seen_states : frame.seenStateIds ⊆ frame'.seenStateIds
  seen_feedback : frame'.seenFeedbackIds = frame.seenFeedbackIds
  state : frame'.state = frame.state
  released : frame'.feedbackByStep = frame.feedbackByStep
  calls : ∃ new, frame'.calls = frame.calls ++ new ∧
    (∀ called ∈ new, CallOf armRun step stateBefore frame.feedbackByStep called.call) ∧
    ((frame'.trialRecords = frame.trialRecords ∧ ∀ called ∈ new, ¬ called.DiscardRaised) ∨
      ((∃ record, frame'.trialRecords = frame.trialRecords ++ [record]) ∧
        ∃ called ∈ new, called.DiscardRaised))

variable {operations : LearningStudyOperations W S F R}

variable {frame : Frame W S F R} {armRun : PlannedArmRun} {step : CompiledStudyStep} {stateBefore :
  LearnerStateHandle S}

lemma refused_of_calls (world : W) {new : List (Called S F R)}
    (hcalls : ∀ called ∈ new,
      CallOf armRun step stateBefore frame.feedbackByStep called.call ∧ ¬ called.DiscardRaised) :
    Refused armRun step stateBefore frame
      { frame with world, calls := frame.calls ++ new } where
  seen_states := List.Subset.refl _
  seen_feedback := rfl
  state := rfl
  released := rfl
  calls := ⟨new, rfl, fun called h => (hcalls called h).1,
    .inl ⟨rfl, fun called h => (hcalls called h).2⟩⟩

lemma refused_of_world (world : W) :
    Refused armRun step stateBefore frame { frame with world } := by
  have h : Refused armRun step stateBefore frame
      { frame with world, calls := frame.calls ++ [] } :=
    refused_of_calls world fun _ h => absurd h List.not_mem_nil
  rwa [List.append_nil] at h

lemma refused_of_call {call : Call S F R}
    (hcall : CallOf armRun step stateBefore frame.feedbackByStep call)
    (hdiscard : ∀ raised, ¬ Called.DiscardRaised ⟨call, raised⟩) (raised : Bool)
    (frame' : Frame W S F R)
    (h : ∃ world, frame' = { frame with world, calls := frame.calls ++ [⟨call, raised⟩] }) :
    Refused armRun step stateBefore frame frame' := by
  obtain ⟨world, rfl⟩ := h
  refine refused_of_calls world ?_
  intro called hcalled
  rw [List.mem_singleton.mp hcalled]
  exact ⟨hcall, hdiscard raised⟩

lemma callOperation_spec {α : Type} (call : Call S F R) (operation : EStateM Raised W α)
    (frame : Frame W S F R) :
    Spec (· = frame) (callOperation call operation)
      (fun _ frame' => ∃ world,
        frame' = { frame with world, calls := frame.calls ++ [⟨call, false⟩] })
      (fun frame' => ∃ world,
        frame' = { frame with world, calls := frame.calls ++ [⟨call, true⟩] }) := by
  rintro frame rfl
  cases hop : operation frame.world with
  | ok a world | error e world =>
    simp only [callOperation, hop]
    exact ⟨world, rfl⟩

lemma run_bind {α β : Type} (x : Run W S F R α) (f : α → Run W S F R β) (frame : Frame W S F R) :
    (x >>= f) frame = match x frame with
      | .ok a frame' => f a frame'
      | .error e frame' => .error e frame' := by
  change EStateM.bind x f frame = _
  unfold EStateM.bind
  cases x frame <;> rfl

lemma run_get {α : Type} (f : Frame W S F R → Run W S F R α) (frame : Frame W S F R) :
    ((get : Run W S F R (Frame W S F R)) >>= f) frame = f frame frame := rfl

lemma notify_spec (observer : LearningStudyObserver W S F R) (notification : Notification S F R)
    (frame : Frame W S F R) :
    Spec (· = frame) (notify observer notification)
      (fun _ frame' => ∃ world, frame' = { frame with world })
      (fun frame' => ∃ world, frame' = { frame with world }) := by
  rintro frame rfl
  cases hnotified : observer notification frame.world with
  | ok a world | error e world =>
    simp only [notify, hnotified]
    exact ⟨world, rfl⟩

variable {P : Frame W S F R → Prop}

lemma validateTrialIdentity_spec {record : TrialRecord R} {step : CompiledExperienceStep} :
    Spec P (validateTrialIdentity record step)
      (fun _ frame => TrialOf (.experience step) (some record) ∧ P frame) P := by
  intro frame hframe
  unfold validateTrialIdentity
  split_ifs with h
  · exact ⟨h, hframe⟩
  · exact hframe

lemma validateNewState_spec {stateId : String} :
    Spec P (validateNewState stateId)
      (fun _ frame => stateId ∉ frame.seenStateIds ∧ P frame) P := by
  intro frame hframe
  rw [validateNewState, run_get]
  split_ifs with hblank hseen
  · exact hframe
  · exact hframe
  · exact ⟨hseen, hframe⟩

lemma validateNewFeedback_spec {feedbackId : String} :
    Spec P (validateNewFeedback feedbackId)
      (fun _ frame => feedbackId ∉ frame.seenFeedbackIds ∧ P frame) P := by
  intro frame hframe
  rw [validateNewFeedback, run_get]
  split_ifs with hblank hseen
  · exact hframe
  · exact hframe
  · exact ⟨hseen, hframe⟩

lemma validateRelease_spec {feedback : FeedbackHandle F} {step : CompiledFeedbackStep} :
    Spec P (validateRelease feedback step)
      (fun _ frame => FeedbackOf (.feedback step) (some feedback) ∧ P frame) P := by
  intro frame hframe
  unfold validateRelease
  split_ifs with hsource hview
  · exact hframe
  · exact hframe
  · exact ⟨⟨not_not.mp hsource, not_not.mp hview⟩, hframe⟩

variable {candidate : LearnerStateHandle S}

lemma validateCandidate_spec {current : LearnerStateHandle S} :
    Spec P (validateCandidate candidate current)
      (fun _ frame => candidate.stateId ∉ frame.seenStateIds ∧ P frame) P := by
  intro frame hframe
  unfold validateCandidate
  split_ifs with hcurrent
  · exact hframe
  · exact validateNewState_spec frame hframe

lemma settle_spec (armRun : PlannedArmRun) (step : CompiledExperienceStep)
    (candidateState stateBefore : LearnerStateHandle S) (frame : Frame W S F R) :
    Spec (· = frame) (settle operations armRun step candidateState stateBefore)
      (fun state frame' => state = (if step.commitPostState then candidateState else stateBefore) ∧
        ∃ world new, frame' = { frame with world, calls := frame.calls ++ new } ∧
          ∀ called ∈ new, called = ⟨.discardState armRun step candidateState, false⟩)
      (fun frame' => ∃ world, frame' = { frame with
        world, calls := frame.calls ++ [⟨.discardState armRun step candidateState, true⟩] }) := by
  unfold settle
  by_cases hcommit : step.commitPostState = true
  · rw [if_pos hcommit]
    refine Spec.pure ?_
    rintro frame rfl
    refine ⟨(if_pos hcommit).symm, frame.world, [], ?_, fun _ h => absurd h List.not_mem_nil⟩
    rw [List.append_nil]
  · rw [if_neg hcommit]
    refine Spec.bind (callOperation_spec _ _ frame) fun _ => Spec.pure ?_
    rintro _ ⟨world, rfl⟩
    exact ⟨(if_neg hcommit).symm, world, _, rfl, fun _ h => List.mem_singleton.mp h⟩

lemma runExperience_spec (armRun : PlannedArmRun) (stepIndex : ℕ) (step : CompiledExperienceStep)
    (stateBefore : LearnerStateHandle S) (frame : Frame W S F R) :
    Spec (· = frame) (runExperience operations armRun stepIndex step stateBefore)
      (fun r => Accepted armRun stepIndex (.experience step) stateBefore frame r.1 r.2)
      (Refused armRun (.experience step) stateBefore frame) := by
  have hcall : CallOf armRun (.experience step) stateBefore frame.feedbackByStep
      (.executeExperience ⟨armRun, step, stateBefore⟩ : Call S F R) := ⟨rfl, rfl, rfl⟩
  have hrefused := refused_of_call (W := W) hcall fun _ h => h
  refine Spec.bind ((callOperation_spec _ _ frame).errors (hrefused true)) fun result => ?_
  refine Spec.bind (validateTrialIdentity_spec.errors (hrefused false)) fun _ =>
    Spec.of_pure fun htrial => ?_
  refine Spec.bind (validateCandidate_spec.errors (hrefused false)) fun _ => ?_
  refine Spec.pointwise ?_
  rintro _ ⟨hnew, world, rfl⟩
  refine Spec.bind Spec.modify fun _ => ?_
  refine Spec.bind ((settle_spec armRun step result.candidateState stateBefore _).errors
    ?_) fun state => Spec.of_pure fun hstate => ?_
  · rintro _ ⟨world', rfl⟩
    refine ⟨List.subset_append_left _ _, rfl, rfl, rfl, _, List.append_assoc _ _ _, ?_,
      .inr ⟨⟨result.trialRecord, rfl⟩, _, List.mem_append_right _ List.mem_cons_self, rfl⟩⟩
    intro called hcalled
    rcases List.mem_pair.mp hcalled with rfl | rfl
    · exact hcall
    · exact ⟨rfl, rfl⟩
  · refine Spec.pointwise ?_
    rintro _ ⟨world', new, rfl, hdiscard⟩
    refine Spec.bind Spec.modify fun _ => Spec.pure ?_
    rintro _ rfl
    exact
      { step_id := rfl
        step_index := rfl
        status := rfl
        before := rfl
        candidate_id := rfl
        committed_id := congrArg (fun state => some state.stateId) hstate
        state_committed := rfl
        trial := htrial
        feedback := rfl
        new_state := hnew
        new_feedback := fun _ h => by cases h
        seen_states := rfl
        seen_feedback := (List.append_nil _).symm
        state := congrArg some hstate
        trials := rfl
        released := (List.append_nil _).symm
        calls := by
          refine ⟨_, List.append_assoc _ _ _, ?_⟩
          intro called hcalled
          rcases List.mem_cons.mp hcalled with rfl | hcalled
          · exact ⟨hcall, fun h => h⟩
          · rw [hdiscard called hcalled]
            exact ⟨⟨rfl, rfl⟩, fun h => Bool.false_ne_true h⟩ }

lemma releaseFeedback_spec (armRun : PlannedArmRun) (stepIndex : ℕ) (step : CompiledFeedbackStep)
    (stateBefore : LearnerStateHandle S) (frame : Frame W S F R) :
    Spec (· = frame) (releaseFeedback operations armRun stepIndex step stateBefore)
      (fun r => Accepted armRun stepIndex (.feedback step) stateBefore frame r.1 r.2)
      (Refused armRun (.feedback step) stateBefore frame) := by
  refine Spec.bind Spec.get fun read => Spec.of_pure fun hread => ?_
  subst hread
  cases Dict.get Prod.fst read.trialsByExperience step.sourceExperienceId with
  | none =>
    refine Spec.throw ?_
    rintro read rfl
    exact refused_of_world read.world
  | some source =>
    have hcall : CallOf armRun (.feedback step) stateBefore read.feedbackByStep
        (.releaseFeedback ⟨armRun, step, stateBefore, source.2⟩ : Call S F R) := ⟨rfl, rfl, rfl⟩
    have hrefused := refused_of_call (W := W) hcall fun _ h => h
    refine Spec.bind ((callOperation_spec _ _ read).errors (hrefused true)) fun result => ?_
    refine Spec.bind (validateCandidate_spec.errors (hrefused false)) fun _ => ?_
    refine Spec.bind (validateNewFeedback_spec.errors fun _ h => hrefused false _ h.2) fun _ => ?_
    refine Spec.bind (validateRelease_spec.errors fun _ h => hrefused false _ h.2.2) fun _ =>
      Spec.of_pure fun hrelease => ?_
    refine Spec.pointwise ?_
    rintro _ ⟨hnewFeedback, hnew, world, rfl⟩
    refine Spec.bind Spec.modify fun _ => Spec.pure ?_
    rintro _ rfl
    exact
      { step_id := rfl
        step_index := rfl
        status := rfl
        before := rfl
        candidate_id := rfl
        committed_id := rfl
        state_committed := rfl
        trial := rfl
        feedback := hrelease
        new_state := hnew
        new_feedback := by
          rintro feedback hfeedback
          obtain rfl := Option.some.inj hfeedback
          exact hnewFeedback
        seen_states := rfl
        seen_feedback := rfl
        state := rfl
        trials := (List.append_nil _).symm
        released := rfl
        calls := by
          refine ⟨_, rfl, ?_⟩
          intro called hcalled
          rw [List.mem_singleton.mp hcalled]
          exact ⟨hcall, fun h => h⟩ }

lemma runConsolidation_spec (armRun : PlannedArmRun) (stepIndex : ℕ)
    (step : CompiledConsolidationStep) (stateBefore : LearnerStateHandle S)
    (frame : Frame W S F R) :
    Spec (· = frame) (runConsolidation operations armRun stepIndex step stateBefore)
      (fun r => Accepted armRun stepIndex (.consolidation step) stateBefore frame r.1 r.2)
      (Refused armRun (.consolidation step) stateBefore frame) := by
  refine Spec.bind Spec.get fun read => Spec.of_pure fun hread => ?_
  subst hread
  cases hselected : selectFeedback read.feedbackByStep step.feedbackStepIds with
  | error e =>
    refine Spec.throw ?_
    rintro read rfl
    exact refused_of_world read.world
  | ok selected =>
    have hcall : CallOf armRun (.consolidation step) stateBefore read.feedbackByStep
        (.consolidate ⟨armRun, step, stateBefore, selected⟩ : Call S F R) :=
      ⟨rfl, rfl, rfl, hselected⟩
    have hrefused := refused_of_call (W := W) hcall fun _ h => h
    refine Spec.bind ((callOperation_spec _ _ read).errors (hrefused true)) fun result => ?_
    refine Spec.bind (validateCandidate_spec.errors (hrefused false)) fun _ => ?_
    refine Spec.pointwise ?_
    rintro _ ⟨hnew, world, rfl⟩
    refine Spec.bind Spec.modify fun _ => Spec.pure ?_
    rintro _ rfl
    exact
      { step_id := rfl
        step_index := rfl
        status := rfl
        before := rfl
        candidate_id := rfl
        committed_id := rfl
        state_committed := rfl
        trial := rfl
        feedback := rfl
        new_state := hnew
        new_feedback := fun _ h => by cases h
        seen_states := rfl
        seen_feedback := (List.append_nil _).symm
        state := rfl
        trials := (List.append_nil _).symm
        released := (List.append_nil _).symm
        calls := by
          refine ⟨_, rfl, ?_⟩
          intro called hcalled
          rw [List.mem_singleton.mp hcalled]
          exact ⟨hcall, fun h => h⟩ }

variable {frame' : Frame W S F R}

lemma Accepted.of_worlds {stepIndex : ℕ} {result : StepExecutionResult F R} {world world' : W}
    (h : Accepted armRun stepIndex step stateBefore { frame with world } result candidate frame') :
    Accepted armRun stepIndex step stateBefore frame result candidate
      { frame' with world := world' } where
  step_id := h.step_id
  step_index := h.step_index
  status := h.status
  before := h.before
  candidate_id := h.candidate_id
  committed_id := h.committed_id
  state_committed := h.state_committed
  trial := h.trial
  feedback := h.feedback
  new_state := h.new_state
  new_feedback := h.new_feedback
  seen_states := h.seen_states
  seen_feedback := h.seen_feedback
  state := h.state
  trials := h.trials
  released := h.released
  calls := h.calls

lemma Refused.of_world {world : W}
    (h : Refused armRun step stateBefore { frame with world } frame') :
    Refused armRun step stateBefore frame frame' where
  seen_states := h.seen_states
  seen_feedback := h.seen_feedback
  state := h.state
  released := h.released
  calls := h.calls

lemma run_modify (f : Frame W S F R → Frame W S F R) (frame : Frame W S F R) :
    (modify f : Run W S F R PUnit) frame = .ok ⟨⟩ (f frame) := rfl

variable {observer : LearningStudyObserver W S F R} {notification : Notification S F R}

lemma interrupts_of_notify {e : Raised} (h : notify observer notification frame = .error e frame') :
    e.interrupts = true := by
  unfold notify at h
  split at h
  next => cases h
  next raised world hraised =>
    obtain ⟨rfl, -⟩ := EStateM.Result.error.inj h
    cases raised <;> rfl

lemma notify_eq_ok {u : PUnit} (h : notify observer notification frame = .ok u frame') :
    ∃ world, frame' = { frame with world } :=
  (notify_spec observer notification frame).ok rfl h

variable {observer : LearningStudyObserver W S F R}

lemma runBranch_spec (armRun : PlannedArmRun) (stepIndex : ℕ) (step : CompiledStudyStep)
    (stateBefore : LearnerStateHandle S) (frame : Frame W S F R) :
    Spec (· = frame) (runBranch operations armRun stepIndex step stateBefore)
      (fun r => Accepted armRun stepIndex step stateBefore frame r.1 r.2)
      (Refused armRun step stateBefore frame) := by
  cases step with
  | experience step => exact runExperience_spec armRun stepIndex step stateBefore frame
  | feedback step => exact releaseFeedback_spec armRun stepIndex step stateBefore frame
  | consolidation step => exact runConsolidation_spec armRun stepIndex step stateBefore frame

lemma performStep_cases (armRun : PlannedArmRun) (stepIndex : ℕ) (step : CompiledStudyStep)
    (stateBefore : LearnerStateHandle S) (frame : Frame W S F R) :
    match performStep operations observer armRun stepIndex step stateBefore frame with
    | .ok result frame' => ∃ candidate,
      Accepted armRun stepIndex step stateBefore frame result candidate frame'
    | .error e frame' => e.interrupts = true ∨ Refused armRun step stateBefore frame frame' := by
  unfold performStep
  rw [run_bind]
  cases hstarted : notify observer (.stepStarted armRun step stepIndex) frame with
  | error e frame' => exact .inl (interrupts_of_notify hstarted)
  | ok u frame₁ =>
    obtain ⟨world, rfl⟩ := notify_eq_ok hstarted
    have hbranch := @runBranch_spec _ _ _ _ operations armRun stepIndex step stateBefore
      { frame with world }
    dsimp only
    rw [run_bind]
    cases hrun : runBranch operations armRun stepIndex step stateBefore { frame with world } with
    | error e frame' => exact .inr (hbranch.error rfl hrun).of_world
    | ok r frame₂ =>
      have haccepted := hbranch.ok rfl hrun
      dsimp only
      rw [run_get, run_bind]
      cases hcommitted : notify observer (.stepCommitted armRun step r.1 stateBefore r.2
          (frame₂.state.getD stateBefore)) frame₂ with
      | error e frame' => exact .inl (interrupts_of_notify hcommitted)
      | ok u frame₃ =>
        obtain ⟨world', rfl⟩ := notify_eq_ok hcommitted
        exact ⟨r.2, haccepted.of_worlds⟩

end Steps

end AecBench.Experimentation.LearningStudies
