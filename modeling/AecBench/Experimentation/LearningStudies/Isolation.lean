import AecBench.Experimentation.LearningStudies.Lineage

/-!
# Isolation in learning studies

Whole studies, from any resume: identities are accepted once over all arm runs, every call agrees
with the results, and trial records are those of completed steps when no discard has raised.

## Main definitions

* `Sound` — what holds of an execution and of the calls made.
* `LearningStudyResume.Sound` — a resume from completed prefixes of arm runs.

## Main results

* `runArmRuns_underway` — the arm runs of a study.
* `execution_sound_iff` — an execution is sound when and only when no discard has raised.
-/

namespace AecBench.Experimentation.LearningStudies

open Text Validation Stateful

variable {W S F R : Type}

/-- What holds of an execution of a plan and of the calls made for it. -/
structure Sound (plan : CompiledLearningStudy) (execution : LearningStudyExecution F R)
    (calls : List (Called S F R)) : Prop where
  lineage : List.Forall₂ ArmLineage plan.armRuns execution.armRuns
  /-- Results are named by the ids of their arm runs and steps. -/
  named : (execution.armRuns.map (·.armRunId)).Nodup ∧
    ∀ result ∈ execution.armRuns, (result.completedSteps.map (·.stepId)).Nodup
  states : (execution.armRuns.flatMap (·.stateIds)).Nodup
  feedback : (execution.armRuns.flatMap fun result => releasedIds result.completedSteps).Nodup
  explained : ∀ called ∈ calls, ∃ result ∈ execution.armRuns,
    result.armRunId = called.call.armRunId ∧ Explained result.completedSteps called.call
  one_value : OneValue (handed calls)
  trials : ∀ result ∈ execution.armRuns,
    result.trialRecords = recordedTrials result.completedSteps

/-- A resume of a plan: arm runs that have ended, and prefixes of others, with all their
identities. -/
structure LearningStudyResume.Sound (plan : CompiledLearningStudy)
    (resume : LearningStudyResume S F R) : Prop where
  completed : ∀ armRun ∈ plan.armRuns, ∀ result ∈ resume.completedArmRuns armRun.armRunId,
    ArmLineage armRun result ∧ result.trialRecords = recordedTrials result.completedSteps
  incomplete : ∀ armRun ∈ plan.armRuns,
    ∀ resumeState ∈ resume.incompleteArmRuns armRun.armRunId, ResumePrefix armRun resumeState
  states : (plan.armRuns.flatMap (resumedStateIds resume)).Nodup
  known_states : plan.armRuns.flatMap (resumedStateIds resume) ⊆ resume.knownStateIds
  feedback : (plan.armRuns.flatMap (resumedFeedbackIds resume)).Nodup
  known_feedback : plan.armRuns.flatMap (resumedFeedbackIds resume) ⊆ resume.knownFeedbackIds

/-! ## Studies -/

/-- A study between two arm runs. -/
structure Underway (resume : LearningStudyResume S F R) (processed remaining : List PlannedArmRun)
    (results : List (ArmRunExecutionResult F R)) (frame : Frame W S F R) : Prop where
  lineage : List.Forall₂ ArmLineage processed results
  states : (results.flatMap (·.stateIds) ++ remaining.flatMap (resumedStateIds resume)).Nodup
  seen : results.flatMap (·.stateIds) ++ remaining.flatMap (resumedStateIds resume) ⊆
    frame.seenStateIds
  feedback : (results.flatMap (fun result => releasedIds result.completedSteps) ++
    remaining.flatMap (resumedFeedbackIds resume)).Nodup
  seen_feedback : results.flatMap (fun result => releasedIds result.completedSteps) ++
    remaining.flatMap (resumedFeedbackIds resume) ⊆ frame.seenFeedbackIds
  explained : ∀ called ∈ frame.calls, ∃ result ∈ results,
    result.armRunId = called.call.armRunId ∧ Explained result.completedSteps called.call
  trials : (∀ result ∈ results, result.trialRecords = recordedTrials result.completedSteps) ↔
    ∀ called ∈ frame.calls, ¬ called.DiscardRaised
  known : ∀ state ∈ handed frame.calls, state.stateId ∈ results.flatMap (·.stateIds)
  one_value : OneValue (handed frame.calls)

section Studies

variable {resume : LearningStudyResume S F R} {processed remaining : List PlannedArmRun}
  {results results' : List (ArmRunExecutionResult F R)} {frame frame' : Frame W S F R}
  {armRun : PlannedArmRun} {result : ArmRunExecutionResult F R}
  {operations : LearningStudyOperations W S F R} {observer : LearningStudyObserver W S F R}

/-- What the rest of a study is to the arm run that comes next. -/
def outside (resume : LearningStudyResume S F R) (remaining : List PlannedArmRun)
    (results : List (ArmRunExecutionResult F R)) (frame : Frame W S F R) : Outside S F R where
  calls := frame.calls
  doneStates := results.flatMap (·.stateIds)
  restStates := remaining.flatMap (resumedStateIds resume)
  doneFeedback := results.flatMap fun result => releasedIds result.completedSteps
  restFeedback := remaining.flatMap (resumedFeedbackIds resume)

variable (h : Underway resume processed (armRun :: remaining) results frame)
include h

lemma Underway.ready :
    Ready (outside resume remaining results frame) (resumedStateIds resume armRun)
      (resumedFeedbackIds resume armRun) frame := by
  have hstates := h.states
  have hseen := h.seen
  have hfeedback := h.feedback
  have hseenFeedback := h.seen_feedback
  rw [List.flatMap_cons, ← List.append_assoc] at hstates hseen hfeedback hseenFeedback
  exact ⟨rfl, hstates, hseen, hfeedback, hseenFeedback, h.known, h.one_value⟩

lemma Underway.finished (hlineage : ArmLineage armRun result)
    (hfinished : Finished (outside resume remaining results frame) result frame') :
    Underway resume (processed ++ [armRun]) remaining (results ++ [result]) frame' := by
  obtain ⟨new, hcalls, hexplained, htrials⟩ := hfinished.calls
  have hflat : ∀ {α : Type} (f : ArmRunExecutionResult F R → List α),
      (results ++ [result]).flatMap f = results.flatMap f ++ f result := by
    intro α f
    rw [List.flatMap_append, List.flatMap_singleton]
  constructor
  · exact List.rel_append h.lineage (List.Forall₂.cons hlineage List.Forall₂.nil)
  · rw [hflat]
    exact hfinished.states
  · rw [hflat]
    exact hfinished.seen
  · rw [hflat]
    exact hfinished.feedback
  · rw [hflat]
    exact hfinished.seen_feedback
  · intro called hcalled
    rw [hcalls] at hcalled
    rcases List.mem_append.mp hcalled with hcalled | hcalled
    · obtain ⟨r, hr, hex⟩ := h.explained called hcalled
      exact ⟨r, List.mem_append_left _ hr, hex⟩
    · obtain ⟨harm, hex⟩ := hexplained called hcalled
      exact ⟨result, List.mem_append_right _ List.mem_cons_self, harm.symm, hex⟩
  · rw [hcalls, List.forall_mem_append, List.forall_mem_append, List.forall_mem_singleton, htrials]
    exact and_congr_left' h.trials
  · rw [hflat]
    exact hfinished.known
  · exact hfinished.one_value

lemma Underway.resumed (hresult : resume.completedArmRuns armRun.armRunId = some result)
    (hlineage : ArmLineage armRun result)
    (htrials : result.trialRecords = recordedTrials result.completedSteps) :
    Underway resume (processed ++ [armRun]) remaining (results ++ [result]) frame := by
  have hready := h.ready
  have hstates : resumedStateIds resume armRun = result.stateIds := by
    simp only [resumedStateIds, hresult]
  have hfeedback : resumedFeedbackIds resume armRun = releasedIds result.completedSteps := by
    simp only [resumedFeedbackIds, hresult]
  rw [hstates, hfeedback] at hready
  refine h.finished hlineage ⟨hready.states, hready.seen, hready.feedback, hready.seen_feedback,
    ⟨[], ?_, fun _ hmem => absurd hmem List.not_mem_nil,
      iff_of_true htrials fun _ hmem => absurd hmem List.not_mem_nil⟩,
    fun state hmem => List.mem_append_left _ (hready.known state hmem), hready.one_value⟩
  exact (List.append_nil _).symm

omit h

lemma runArmRuns_underway
    (hcompleted : ∀ armRun ∈ remaining, ∀ result ∈ resume.completedArmRuns armRun.armRunId,
      ArmLineage armRun result ∧ result.trialRecords = recordedTrials result.completedSteps)
    (hincomplete : ∀ armRun ∈ remaining,
      ∀ resumeState ∈ resume.incompleteArmRuns armRun.armRunId, ResumePrefix armRun resumeState)
    (h : Underway resume processed remaining results frame)
    (hrun : runArmRuns operations observer resume remaining frame = .ok results' frame') :
    Underway resume (processed ++ remaining) [] (results ++ results') frame' := by
  induction remaining generalizing processed results results' frame with
  | nil =>
    obtain ⟨rfl, rfl⟩ := EStateM.Result.ok.inj hrun
    rwa [List.append_nil, List.append_nil]
  | cons armRun remaining ih =>
    unfold runArmRuns at hrun
    obtain ⟨result, frame₁, hresult, hrun⟩ := run_bind_eq_ok hrun
    obtain ⟨rest, frame₂, hrest, hrun⟩ := run_bind_eq_ok hrun
    obtain ⟨rfl, rfl⟩ := EStateM.Result.ok.inj hrun
    have hnext : Underway resume (processed ++ [armRun]) remaining (results ++ [result]) frame₁ := by
      unfold resumeOrRun at hresult
      cases hterminal : resume.completedArmRuns armRun.armRunId with
      | some terminal =>
        rw [hterminal] at hresult
        obtain ⟨rfl, rfl⟩ := EStateM.Result.ok.inj hresult
        obtain ⟨hlineage, htrials⟩ := hcompleted armRun List.mem_cons_self terminal hterminal
        exact h.resumed hterminal hlineage htrials
      | none =>
        rw [hterminal] at hresult
        have hready := h.ready
        have hstates : resumedStateIds resume armRun =
            (resume.incompleteArmRuns armRun.armRunId).elim [] fun resumed =>
              resumed.initialStateId :: candidateIds resumed.completedSteps := by
          simp only [resumedStateIds, hterminal]
          cases resume.incompleteArmRuns armRun.armRunId <;> rfl
        have hfeedback : resumedFeedbackIds resume armRun =
            (resume.incompleteArmRuns armRun.armRunId).elim [] fun resumed =>
              releasedIds resumed.completedSteps := by
          simp only [resumedFeedbackIds, hterminal]
          cases resume.incompleteArmRuns armRun.armRunId <;> rfl
        rw [hstates, hfeedback] at hready
        obtain ⟨hlineage, hfinished⟩ :=
          runArmRun_finished hready (hincomplete armRun List.mem_cons_self) hresult
        exact h.finished hlineage hfinished
    have hdone := ih (fun a ha => hcompleted a (List.mem_cons_of_mem _ ha))
      (fun a ha => hincomplete a (List.mem_cons_of_mem _ ha)) hnext hrest
    rwa [List.append_assoc, List.append_assoc, List.singleton_append, List.singleton_append]
      at hdone

variable {plan : CompiledLearningStudy} {studyRunId : String}
  {spec : Contracts.LearningStudy.LearningStudySpec} {resolveTask : String → Except String String}
  {execution : LearningStudyExecution F R}

lemma runLearningStudy_underway (hresume : resume.Sound plan) {world : W}
    (hrun : runLearningStudy operations observer plan resume (Frame.start world resume) =
      .ok execution frame') : Underway resume plan.armRuns [] execution.armRuns frame' := by
  have hstart : Underway resume [] plan.armRuns [] (Frame.start world resume) :=
    { lineage := List.Forall₂.nil
      states := hresume.states
      seen := hresume.known_states
      feedback := hresume.feedback
      seen_feedback := hresume.known_feedback
      explained := fun _ hmem => absurd hmem List.not_mem_nil
      trials := iff_of_true (fun _ hmem => absurd hmem List.not_mem_nil)
        fun _ hmem => absurd hmem List.not_mem_nil
      known := fun _ hmem => absurd hmem List.not_mem_nil
      one_value := fun _ hmem => absurd hmem List.not_mem_nil }
  obtain ⟨r, frame₁, hattempt, hrun⟩ := run_bind_eq_ok hrun
  obtain ⟨results, rfl, hx⟩ | ⟨e, rfl, hx⟩ := attempt_eq_ok hattempt
  · obtain ⟨u, frame₂, hnotify, hrun⟩ := run_bind_eq_ok hrun
    obtain ⟨world', rfl⟩ := notify_eq_ok hnotify
    obtain ⟨rfl, rfl⟩ := EStateM.Result.ok.inj hrun
    have h := runArmRuns_underway hresume.completed hresume.incomplete hstart hx
    exact ⟨h.lineage, h.states, h.seen, h.feedback, h.seen_feedback, h.explained, h.trials, h.known,
      h.one_value⟩
  · cases e with
    | cancelled =>
      obtain ⟨u, frame₂, hnotify, hrun⟩ := run_bind_eq_ok hrun
      cases hrun
    | stepFailure category message | error message | persistence message => cases hrun

lemma step_ids_of_lineage {steps : List CompiledStudyStep}
    {completed : List (StepExecutionResult F R)}
    (h : List.Forall₂ StepLineage steps.zipIdx completed) :
    completed.map (·.stepId) = steps.map CompiledStudyStep.stepId := by
  have hids : List.Forall₂ (· = ·) ((steps.zipIdx.map Prod.fst).map CompiledStudyStep.stepId)
      (completed.map (·.stepId)) := by
    rw [List.forall₂_map_left_iff, List.forall₂_map_left_iff, List.forall₂_map_right_iff]
    exact h.imp fun _ _ hstep => hstep.step_id.symm
  rw [List.forall₂_eq_eq_eq] at hids
  rw [← hids, List.zipIdx_map_fst]

lemma named_of_lineage (hplan : compileLearningStudy studyRunId spec resolveTask = .ok plan)
    (h : List.Forall₂ ArmLineage plan.armRuns results) :
    (results.map (·.armRunId)).Nodup ∧
      ∀ result ∈ results, (result.completedSteps.map (·.stepId)).Nodup := by
  constructor
  · have hids : List.Forall₂ (· = ·) (plan.armRuns.map (·.armRunId)) (results.map (·.armRunId)) := by
      rw [List.forall₂_map_left_iff, List.forall₂_map_right_iff]
      exact h.imp fun _ _ hlineage => hlineage.id.symm
    rw [List.forall₂_eq_eq_eq] at hids
    rw [← hids]
    exact arm_run_ids_of_compile hplan
  · have hnodup := (List.forall₂_and_left plan.armRuns results).mpr
      ⟨fun armRun harm => step_ids_of_compile hplan harm, h⟩
    have hsteps : List.Forall₂ (fun result (_ : PlannedArmRun) =>
        (result.completedSteps.map (·.stepId)).Nodup ∧ True) results plan.armRuns := by
      refine List.Forall₂.flip (hnodup.imp ?_)
      rintro armRun result ⟨hids, hlineage⟩
      refine ⟨?_, trivial⟩
      rcases hlineage.started with ⟨-, hnone, -⟩ | ⟨-, hsteps, -⟩
      · rw [hnone]
        exact List.nodup_nil
      · rw [step_ids_of_lineage hsteps]
        exact hids
    exact ((List.forall₂_and_left results plan.armRuns).mp hsteps).1

/-- **Probe isolation and state lineage.** An execution is sound when and only when no discard of a
candidate state has raised. -/
theorem execution_sound_iff (hplan : compileLearningStudy studyRunId spec resolveTask = .ok plan)
    (hresume : resume.Sound plan) {world : W}
    (hrun : runLearningStudy operations observer plan resume (Frame.start world resume) =
      .ok execution frame') :
    Sound plan execution frame'.calls ↔ ∀ called ∈ frame'.calls, ¬ called.DiscardRaised := by
  have h := runLearningStudy_underway hresume hrun
  have hstates := h.states
  have hfeedback := h.feedback
  rw [List.flatMap_nil, List.append_nil] at hstates hfeedback
  rw [← h.trials]
  exact ⟨fun hsound => hsound.trials, fun htrials => ⟨h.lineage, named_of_lineage hplan h.lineage,
    hstates, hfeedback, h.explained, h.one_value, htrials⟩⟩

end Studies

/-! ## A probe whose candidate state is not discarded -/

section Probe

open Contracts.LearningStudy

lemma fresh_sound (plan : CompiledLearningStudy) :
    (LearningStudyResume.fresh : LearningStudyResume S F R).Sound plan := by
  have hstates : plan.armRuns.flatMap
      (resumedStateIds (LearningStudyResume.fresh : LearningStudyResume S F R)) = [] :=
    List.flatMap_eq_nil_iff.mpr fun _ _ => rfl
  have hfeedback : plan.armRuns.flatMap
      (resumedFeedbackIds (LearningStudyResume.fresh : LearningStudyResume S F R)) = [] :=
    List.flatMap_eq_nil_iff.mpr fun _ _ => rfl
  refine ⟨nofun, nofun, ?_, ?_, ?_, ?_⟩
  · rw [hstates]
    exact List.nodup_nil
  · rw [hstates]
    exact List.nil_subset _
  · rw [hfeedback]
    exact List.nodup_nil
  · rw [hfeedback]
    exact List.nil_subset _

/-- One arm, which runs one probe. -/
def probeSpec : LearningStudySpec where
  studyId := ⟨"study", by decide⟩
  title := ⟨"title", by decide⟩
  researchQuestion := ⟨"question", by decide⟩
  agent := ⟨⟨"model", by decide⟩, .nil⟩
  compute := ⟨⟨"local", by decide⟩, .nil⟩
  repetitions := ⟨1, Nat.one_pos⟩
  experiences := [⟨⟨"probe", by decide⟩, ⟨"task", by decide⟩, .probe⟩]
  relations := []
  measurements := []
  arms := [⟨⟨"arm", by decide⟩, .exposure, ⟨"none", by decide⟩,
    [.runExperience ⟨⟨"step", by decide⟩, ⟨"probe", by decide⟩, none⟩], by decide, by decide⟩]
  experiences_nodup := by decide
  relations_nodup := by decide
  measurements_nodup := by decide
  arms_nodup := by decide
  experiences_nonempty := by decide
  arms_nonempty := by decide

def probePlan : CompiledLearningStudy where
  studyRunId := "run"
  spec := probeSpec
  armRuns :=
    [{ armRunId := "run--arm--r01"
       armId := "arm"
       armRole := .exposure
       treatmentId := "none"
       repetition := 1
       steps := [.experience
        { stepId := "step"
          experienceId := "probe"
          role := .probe
          trial :=
            { trialId := "run--arm--step--task--model--rep01"
              experimentId := "run--arm--step"
              taskId := "task"
              agent := probeSpec.agent
              compute := probeSpec.compute
              repetition := 1 }
          commitPostState := false }] }]

lemma compile_probeSpec : compileLearningStudy "run" probeSpec .ok = .ok probePlan := by
  decide +kernel

/-- Operations that do as the plan says, but for a discard that may raise. -/
def probeOperations (discard : EStateM Raised Unit PUnit) :
    LearningStudyOperations Unit Unit Unit Unit where
  initialiseLearner _ := pure ⟨"initial", ()⟩
  executeExperience request :=
    pure ⟨⟨request.step.trial.trialId, request.step.trial.taskId, ()⟩, ⟨"after", ()⟩⟩
  releaseFeedback request := pure
    ⟨⟨"released", ()⟩, ⟨"feedback", request.step.sourceExperienceId, request.step.feedbackViewId, ()⟩⟩
  consolidate _ := pure ⟨⟨"consolidated", ()⟩⟩
  discardState _ := discard

/-- An observer that does nothing. -/
def silent : LearningStudyObserver Unit Unit Unit Unit := fun _ => pure ⟨⟩

/-- The study of one probe, with what a discard does. -/
def runProbe (discard : EStateM Raised Unit PUnit) :
    EStateM.Result Raised (Frame Unit Unit Unit Unit) (LearningStudyExecution Unit Unit) :=
  runLearningStudy (probeOperations discard) silent probePlan .fresh (Frame.start () .fresh)

/-- The study returns, and these are the numbers of its trial records and of its raised discards. -/
def returns (trials raised : ℕ) :
    EStateM.Result Raised (Frame Unit Unit Unit Unit) (LearningStudyExecution Unit Unit) → Bool
  | .ok execution frame =>
    (execution.armRuns.map fun result =>
      (result.trialRecords.length, (recordedTrials result.completedSteps).length)) = [(1, trials)] ∧
      (frame.calls.filter (·.raised)).length = raised
  | .error _ _ => false

theorem discarded_probe_sound : ∃ execution frame,
    runProbe (pure ⟨⟩) = .ok execution frame ∧ Sound probePlan execution frame.calls := by
  have hreturns : returns 1 0 (runProbe (pure ⟨⟩)) = true := by decide +kernel
  cases hrun : runProbe (pure ⟨⟩) with
  | ok execution frame =>
    rw [hrun, returns, decide_eq_true_eq, List.length_eq_zero_iff, List.filter_eq_nil_iff]
      at hreturns
    refine ⟨execution, frame, rfl, ?_⟩
    refine (execution_sound_iff compile_probeSpec (fresh_sound _) hrun).mpr ?_
    intro called hcalled hdiscard
    unfold Called.DiscardRaised at hdiscard
    split at hdiscard
    · exact hreturns.2 called hcalled hdiscard
    · exact hdiscard
  | error e frame =>
    rw [hrun] at hreturns
    cases hreturns

theorem failed_probe_not_sound : ∃ execution frame,
    runProbe (throw (.error "disk")) = .ok execution frame ∧
      ¬ Sound probePlan execution frame.calls := by
  have hreturns : returns 0 1 (runProbe (throw (.error "disk"))) = true := by decide +kernel
  cases hrun : runProbe (throw (.error "disk")) with
  | ok execution frame =>
    rw [hrun, returns, decide_eq_true_eq] at hreturns
    refine ⟨execution, frame, rfl, ?_⟩
    intro h
    have hnumbers := hreturns.1
    rw [List.map_congr_left (g := fun result => (result.trialRecords.length,
      result.trialRecords.length)) fun result hresult => by rw [← h.trials result hresult]]
      at hnumbers
    obtain ⟨result, rest, -, hresult, -⟩ := List.map_eq_cons_iff.mp hnumbers
    obtain ⟨hone, hzero⟩ := Prod.mk.inj hresult
    omega
  | error e frame =>
    rw [hrun] at hreturns
    cases hreturns

end Probe

end AecBench.Experimentation.LearningStudies
